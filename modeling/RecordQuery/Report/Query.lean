import RecordQuery.Query
import RecordQuery.Report.Records
import RecordQuery.Text.Escaped

/-!
# Showing a query

A query is shown as its tokens, one on each line, or as its canonical text.
-/

namespace RecordQuery.Report

open Json (Value)
open Text (Style)

/-! ## Tokens -/

def positionWidth : Nat := 5

def kindWidth : Nat := 18

def lexemeValue : Lexeme → List Char
  | .property (some key) value => key.word.toList ++ ':' :: value.toList
  | .string value true => 'c' :: Text.escaped value.toList
  | .string value false => Text.escaped value.toList
  | lexeme => lexeme.text.toList

def tokensHeader : List Char :=
  joinCells [Text.pad positionWidth "Pos".toList, Text.pad kindWidth "Kind".toList, "Value".toList]

/-- The line for a token, with the blanks at its end left out. -/
def tokenRow (token : Token) : List Char :=
  Text.trimEnd <| joinCells [
    Text.pad positionWidth (toString token.position).toList,
    Text.pad kindWidth token.lexeme.kindName.toList,
    lexemeValue token.lexeme]

def tokensTable (tokens : List Token) (colors : Bool) : String :=
  joinLines (Style.dimmed.applyIf colors tokensHeader :: tokens.map tokenRow)

def tokenObject (token : Token) : Value :=
  .object (
    [("kind", .string token.lexeme.kindName),
      ("text", .string token.lexeme.text),
      ("position", .natural token.position)] ++
    (if token.lexeme.caseSensitive then [("case_sensitive", .bool true)] else []) ++
    optionalText "property" (token.lexeme.key?.map PropertyKey.word))

/-- Some tokens, as objects. -/
def tokensArray (tokens : List Token) : Value :=
  .array (tokens.map tokenObject)

/-! ## Canonical text -/

def canonicalObject (query canonical : String) : Value :=
  .object [("query", .string query), ("canonical", .string canonical)]

/-- The line for a query without errors. -/
def validLine (canonical : String) (colors : Bool) : String :=
  let mark := if colors then String.ofList (Style.green.apply ['✓']) else "OK:"
  mark ++ " " ++ canonical ++ "\n"

/-- A query without errors and its canonical text. -/
def validObject (query canonical : String) : Value :=
  .object [("canonical", .string canonical), ("query", .string query), ("valid", .bool true)]

end RecordQuery.Report
