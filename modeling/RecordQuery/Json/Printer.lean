import RecordQuery.Json.Value

/-!
# Printing JSON

Each item of an array and each field of an object stands on a line of its own, indented by two spaces
for each level. Strings are written as they are, but for quotes, backslashes and control characters.
-/

namespace RecordQuery.Json

def hexDigit (value : Nat) : Char :=
  Nat.digitChar value

def escapeChar (c : Char) : List Char :=
  match c with
  | '"' => ['\\', '"']
  | '\\' => ['\\', '\\']
  | '\x08' => ['\\', 'b']
  | '\x0c' => ['\\', 'f']
  | '\n' => ['\\', 'n']
  | '\r' => ['\\', 'r']
  | '\t' => ['\\', 't']
  | c =>
      if c.toNat < 0x20 then
        ['\\', 'u', '0', '0', hexDigit (c.toNat / 16), hexDigit (c.toNat % 16)]
      else [c]

def quote (text : String) : List Char :=
  '"' :: (text.toList.flatMap escapeChar ++ ['"'])

def lineStart (level : Nat) : List Char :=
  '\n' :: List.replicate (2 * level) ' '

namespace Value

mutual

/-- The characters of a value that begins at a level. A value that has no text is shown as null. -/
def print (level : Nat) : Value → List Char
  | null => "null".toList
  | bool true => "true".toList
  | bool false => "false".toList
  | number spelling => spelling.toList
  | string text => quote text
  | array [] => ['[', ']']
  | array (item :: items) =>
      '[' :: (lineStart (level + 1) ++ item.print (level + 1) ++
        printItems (level + 1) items ++ lineStart level ++ [']'])
  | object [] => ['\x7b', '\x7d']
  | object ((name, value) :: fields) =>
      '\x7b' :: (lineStart (level + 1) ++ quote name ++ ':' :: ' ' :: value.print (level + 1) ++
        printFields (level + 1) fields ++ lineStart level ++ ['\x7d'])
  | unreadable => "null".toList

/-- The items of an array behind the first one. -/
def printItems (level : Nat) : List Value → List Char
  | [] => []
  | item :: items => ',' :: (lineStart level ++ item.print level ++ printItems level items)

/-- The fields of an object behind the first one. -/
def printFields (level : Nat) : List (String × Value) → List Char
  | [] => []
  | (name, value) :: fields =>
      ',' :: (lineStart level ++ quote name ++ ':' :: ' ' :: value.print level ++
        printFields level fields)

end

/-- The text of a value, over several lines. -/
def pretty (value : Value) : String :=
  String.ofList (value.print 0)

end Value

end RecordQuery.Json
