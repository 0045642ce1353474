import RecordQuery.Toml.Decimal

/-!
# TOML values

The values of a TOML document. A table remembers how it came to be, since that decides what may still be
added to it.
-/

namespace RecordQuery.Toml

/-- How a table came to be. -/
inductive TableForm where
  /-- By a header of its own. -/
  | header
  /-- By the header of a table inside it. -/
  | implied
  /-- By a dotted key. -/
  | dotted
  /-- By braces; nothing can be added. -/
  | closed
  deriving DecidableEq, Repr

/-- A TOML value. Moments are kept as text. -/
inductive Value where
  | string (text : String)
  | integer (value : Int)
  | float (number : Floating)
  | boolean (value : Bool)
  /-- A date, a time, or both. -/
  | moment (text : String)
  | array (items : List Value)
  /-- Tables under one header each, the last one first. -/
  | tables (tables : List (List (String × Value)))
  | table (form : TableForm) (entries : List (String × Value))
  deriving Repr, Inhabited

abbrev Entries := List (String × Value)

namespace Entries

/-- Changes the value under a key, or what is not there yet. -/
def alter (key : String) (change : Option Value → Option Value) : Entries → Option Entries
  | [] => (change none).map fun value => [(key, value)]
  | entry :: rest =>
      if entry.1 = key then (change (some entry.2)).map fun value => (key, value) :: rest
      else (alter key change rest).map (entry :: ·)

/-- Adds a value under a new key. -/
def addNew (key : String) (value : Value) : Entries → Option Entries :=
  alter key fun
    | none => some value
    | some _ => none

/-- Adds a value under a dotted key: the last part is the key, the parts before it lead to the table. A
table that the dotted key itself leads to has to come from dotted keys; on the way there, tables
implied by headers will do, too. -/
def assign (value : Value) (key : String) : (path : List String) → Entries → Option Entries
  | [], entries => addNew key value entries
  | part :: path, entries =>
      alter part (fun
        | none => (assign value key path []).map (.table .dotted)
        | some (.table .dotted inner) => (assign value key path inner).map (.table .dotted)
        | some (.table .implied inner) =>
            if path.isEmpty then none else (assign value key path inner).map (.table .implied)
        | some (.tables (last :: others)) =>
            if path.isEmpty then none
            else (assign value key path last).map fun last => .tables (last :: others)
        | some _ => none) entries

/-- Does something to the table that the parts of a header lead to. -/
def within (action : Entries → Option Entries) : (path : List String) → Entries → Option Entries
  | [], entries => action entries
  | part :: path, entries =>
      alter part (fun
        | none => (within action path []).map (.table .implied)
        | some (.table .closed _) => none
        | some (.table form inner) => (within action path inner).map (.table form)
        | some (.tables (last :: others)) =>
            (within action path last).map fun last => .tables (last :: others)
        | some _ => none) entries

/-- Opens the table of a header. Each table has one header at most. -/
def openTable (key : String) : Entries → Option Entries :=
  alter key fun
    | none => some (.table .header [])
    | some (.table .implied inner) => some (.table .header inner)
    | some _ => none

/-- Opens one more table under a header for several. -/
def openNextTable (key : String) : Entries → Option Entries :=
  alter key fun
    | none => some (.tables [[]])
    | some (.tables others) => some (.tables ([] :: others))
    | some _ => none

/-- The value under a key. -/
def find? (entries : Entries) (key : String) : Option Value :=
  entries.lookup key

end Entries

end RecordQuery.Toml
