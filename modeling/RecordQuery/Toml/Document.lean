import RecordQuery.Toml.Moment

/-!
# TOML documents

A document is a row of statements, one on each line: headers, and assignments of values to keys. The
tables are built from the statements in their order.
-/

namespace RecordQuery.Toml

/-! ## Values -/

/-- The greatest number of arrays and tables in braces around each other. -/
def nestingLimit : Nat := 79

/-- The table in braces with the given assignments. -/
def closedTable? (assignments : List (List String × Value)) : Option Value := do
  let entries ← assignments.foldlM (fun entries (key, value) =>
    Entries.assign value (key.getLastD "") key.dropLast entries) []
  return .table .closed entries

mutual

/-- Takes a value with at most `nesting` levels of brackets, in at most `limit` steps. -/
def valueUpTo? (nesting : Nat) : (limit : Nat) → List Char → Option (Value × List Char)
  | 0, _ => none
  | limit + 1, text =>
      match text with
      | '[' :: rest =>
          if nesting = 0 then none
          else do
            let (items, rest) ← itemsUpTo? (nesting - 1) limit (skipLines rest)
            return (.array items, rest)
      | '\x7b' :: rest =>
          if nesting = 0 then none
          else
            match skipBlanks rest with
            | '\x7d' :: rest => some (.table .closed [], rest)
            | rest => do
                let (assignments, rest) ← fieldsUpTo? (nesting - 1) limit rest
                return (← closedTable? assignments, rest)
      | 't' :: 'r' :: 'u' :: 'e' :: rest => some (.boolean true, rest)
      | 'f' :: 'a' :: 'l' :: 's' :: 'e' :: rest => some (.boolean false, rest)
      | '"' :: _ => (string? text).map fun (value, rest) => (.string (String.ofList value), rest)
      | '\'' :: _ => (string? text).map fun (value, rest) => (.string (String.ofList value), rest)
      | _ => numberOrMoment? text

def itemsUpTo? (nesting : Nat) : (limit : Nat) → List Char → Option (List Value × List Char)
  | 0, _ => none
  | limit + 1, text =>
      match text with
      | ']' :: rest => some ([], rest)
      | _ => do
          let (item, rest) ← valueUpTo? nesting limit text
          match skipLines rest with
          | ',' :: rest =>
              let (items, rest) ← itemsUpTo? nesting limit (skipLines rest)
              return (item :: items, rest)
          | ']' :: rest => return ([item], rest)
          | _ => none

def fieldsUpTo? (nesting : Nat) :
    (limit : Nat) → List Char → Option (List (List String × Value) × List Char)
  | 0, _ => none
  | limit + 1, text => do
      let (key, rest) ← key? text
      match skipBlanks rest with
      | '=' :: rest =>
          let (value, rest) ← valueUpTo? nesting limit (skipBlanks rest)
          match skipBlanks rest with
          | ',' :: rest =>
              let (fields, rest) ← fieldsUpTo? nesting limit (skipBlanks rest)
              return ((key, value) :: fields, rest)
          | '\x7d' :: rest => return ([(key, value)], rest)
          | _ => none
      | _ => none

end

/-- Takes a value. Each character is met in two steps at most. -/
def value? (text : List Char) : Option (Value × List Char) :=
  valueUpTo? nestingLimit (2 * text.length + 1) text

/-! ## Statements -/

/-- A line of a document. -/
inductive Statement where
  /-- The header of a table. -/
  | header (key : List String)
  /-- The header of one of several tables. -/
  | nextHeader (key : List String)
  | assignment (key : List String) (value : Value)
  deriving Repr

def statement? : List Char → Option (Statement × List Char)
  | '[' :: '[' :: rest => do
      let (key, rest) ← key? (skipBlanks rest)
      match skipBlanks rest with
      | ']' :: ']' :: rest => return (.nextHeader key, rest)
      | _ => none
  | '[' :: rest => do
      let (key, rest) ← key? (skipBlanks rest)
      match skipBlanks rest with
      | ']' :: rest => return (.header key, rest)
      | _ => none
  | text => do
      let (key, rest) ← key? text
      match skipBlanks rest with
      | '=' :: rest =>
          let (value, rest) ← value? (skipBlanks rest)
          return (.assignment key value, rest)
      | _ => none

/-- The statements of a text, at most `limit` of them, each followed by the end of its line. -/
def statementsUpTo? : (limit : Nat) → List Char → Option (List Statement)
  | 0, _ => none
  | limit + 1, text =>
      match skipComment (skipLines text) with
      | [] => some []
      | text => do
          let (statement, rest) ← statement? text
          match skipComment (skipBlanks rest) with
          | [] => return [statement]
          | rest =>
              let statements ← statementsUpTo? limit (← lineEnd? rest)
              return statement :: statements

/-- The statements of a text, which a byte order mark may precede. -/
def statements? : List Char → Option (List Statement)
  | '\ufeff' :: text => statementsUpTo? (text.length + 1) text
  | text => statementsUpTo? (text.length + 1) text

/-! ## Tables -/

/-- The tables of a document so far, and the header whose table is being filled. -/
structure Draft where
  entries : Entries := []
  current : List String := []

def Draft.add (draft : Draft) : Statement → Option Draft
  | .header key => do
      let entries ← draft.entries.within (Entries.openTable (key.getLastD "")) key.dropLast
      return ⟨entries, key⟩
  | .nextHeader key => do
      let entries ← draft.entries.within (Entries.openNextTable (key.getLastD "")) key.dropLast
      return ⟨entries, key⟩
  | .assignment key value => do
      let assign := Entries.assign value (key.getLastD "") key.dropLast
      let entries ← draft.entries.within assign draft.current
      return { draft with entries }

def Entries.ofText? (text : String) : Option Entries := do
  let statements ← statements? text.toList
  let draft ← statements.foldlM Draft.add {}
  return draft.entries

end RecordQuery.Toml
