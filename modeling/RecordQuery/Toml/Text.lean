/-!
# Keys, strings and comments in TOML

Each reader takes something at the head of a text and gives what follows it, or nothing if the text does
not begin that way.
-/

namespace RecordQuery.Toml

/-! ## Blanks and comments -/

/-- Whether a character is a blank inside a line. -/
def isBlank (c : Char) : Bool :=
  c == ' ' || c == '\t'

def skipBlanks (text : List Char) : List Char :=
  text.dropWhile isBlank

def isCommentPart (c : Char) : Bool :=
  c == '\t' || (0x20 ≤ c.toNat && c.toNat ≠ 0x7F)

/-- Skips a comment, if there is one. -/
def skipComment : List Char → List Char
  | '#' :: rest => rest.dropWhile isCommentPart
  | text => text

def lineEnd? : List Char → Option (List Char)
  | '\n' :: rest => some rest
  | '\r' :: '\n' :: rest => some rest
  | _ => none

/-- Skips blanks, ends of lines and comments that are followed by the end of a line, passing at most
`limit` ends of lines. -/
def skipLinesUpTo : (limit : Nat) → List Char → List Char
  | 0, text => skipBlanks text
  | limit + 1, text =>
      match lineEnd? (skipComment (skipBlanks text)) with
      | some rest => skipLinesUpTo limit rest
      | none => skipBlanks text

/-- Skips blanks, comments and ends of lines. -/
def skipLines (text : List Char) : List Char :=
  skipLinesUpTo text.length text

/-! ## Strings -/

def hexDigit? (c : Char) : Option Nat :=
  if '0' ≤ c && c ≤ '9' then some (c.toNat - '0'.toNat)
  else if 'a' ≤ c && c ≤ 'f' then some (c.toNat - 'a'.toNat + 10)
  else if 'A' ≤ c && c ≤ 'F' then some (c.toNat - 'A'.toNat + 10)
  else none

def characterOf? (digits : List Char) : Option Char := do
  let values ← digits.mapM hexDigit?
  let code := values.foldl (fun code digit => 16 * code + digit) 0
  if code.isValidChar then some (Char.ofNat code) else none

def escapeMeaning? : Char → Option Char
  | 'b' => some '\x08'
  | 't' => some '\t'
  | 'n' => some '\n'
  | 'f' => some '\x0c'
  | 'r' => some '\r'
  | '"' => some '"'
  | '\\' => some '\\'
  | _ => none

/-- Whether a character other than an end of line may stand in a string as it is. -/
def isStringPart (c : Char) : Bool :=
  c == '\t' || (0x20 ≤ c.toNat && c.toNat ≠ 0x7F)

/-- Puts a character in front of the text of a string. -/
def prepend (c : Char) : Option (List Char × List Char) → Option (List Char × List Char)
  | some (text, rest) => some (c :: text, rest)
  | none => none

/-- The rest of a string in double quotes, behind the opening quote. -/
def basicString? : List Char → Option (List Char × List Char)
  | [] => none
  | '"' :: rest => some ([], rest)
  | '\\' :: 'u' :: a :: b :: c :: d :: rest => do
      prepend (← characterOf? [a, b, c, d]) (basicString? rest)
  | '\\' :: 'U' :: a :: b :: c :: d :: e :: f :: g :: h :: rest => do
      prepend (← characterOf? [a, b, c, d, e, f, g, h]) (basicString? rest)
  | '\\' :: c :: rest => do prepend (← escapeMeaning? c) (basicString? rest)
  | c :: rest => if isStringPart c && c ≠ '\\' then prepend c (basicString? rest) else none

/-- The rest of a string in single quotes, behind the opening quote. -/
def literalString? (text : List Char) : Option (List Char × List Char) :=
  let value := text.takeWhile fun c => isStringPart c && c ≠ '\''
  match text.drop value.length with
  | '\'' :: rest => some (value, rest)
  | _ => none

/-- The quotes at the head of a text that close a string over several lines: three of them close it, and
one or two before these belong to it. -/
def closingQuotes? (quote : Char) (text : List Char) : Option (List Char × List Char) :=
  let count := (text.takeWhile (· == quote)).length
  if count < 3 then none
  else
    let inside := min (count - 3) 2
    some (List.replicate inside quote, text.drop (inside + 3))

def skipBlankLines : List Char → List Char
  | '\r' :: '\n' :: rest => skipBlankLines rest
  | c :: rest => if isBlank c || c == '\n' then skipBlankLines rest else c :: rest
  | [] => []

/-- Skips the blanks and ends of lines behind a backslash at the end of a line. -/
def skipFold (text : List Char) : Option (List Char) :=
  (lineEnd? (skipBlanks text)).map skipBlankLines

/-- The rest of a string in three double quotes, behind the opening quotes, in at most `limit` steps. -/
def multilineBasic? : (limit : Nat) → List Char → Option (List Char × List Char)
  | 0, _ => none
  | limit + 1, text =>
      match closingQuotes? '"' text with
      | some closed => some closed
      | none =>
          match text with
          | [] => none
          | '\\' :: 'u' :: a :: b :: c :: d :: rest => do
              prepend (← characterOf? [a, b, c, d]) (multilineBasic? limit rest)
          | '\\' :: 'U' :: a :: b :: c :: d :: e :: f :: g :: h :: rest => do
              prepend (← characterOf? [a, b, c, d, e, f, g, h]) (multilineBasic? limit rest)
          | '\\' :: c :: rest =>
              match escapeMeaning? c with
              | some meant => prepend meant (multilineBasic? limit rest)
              | none => do multilineBasic? limit (← skipFold (c :: rest))
          | '\r' :: '\n' :: rest => prepend '\n' (multilineBasic? limit rest)
          | c :: rest =>
              if (isStringPart c && c ≠ '\\') || c = '\n' then
                prepend c (multilineBasic? limit rest)
              else none

/-- The rest of a string in three single quotes, behind the opening quotes, in at most `limit` steps. -/
def multilineLiteral? : (limit : Nat) → List Char → Option (List Char × List Char)
  | 0, _ => none
  | limit + 1, text =>
      match closingQuotes? '\'' text with
      | some closed => some closed
      | none =>
          match text with
          | [] => none
          | '\r' :: '\n' :: rest => prepend '\n' (multilineLiteral? limit rest)
          | c :: rest =>
              if isStringPart c || c = '\n' then prepend c (multilineLiteral? limit rest) else none

def skipLineEnd (text : List Char) : List Char :=
  (lineEnd? text).getD text

def string? : List Char → Option (List Char × List Char)
  | '"' :: '"' :: '"' :: rest => multilineBasic? (rest.length + 1) (skipLineEnd rest)
  | '"' :: rest => basicString? rest
  | '\'' :: '\'' :: '\'' :: rest => multilineLiteral? (rest.length + 1) (skipLineEnd rest)
  | '\'' :: rest => literalString? rest
  | _ => none

/-! ## Keys -/

/-- Whether a character may stand in a key without quotes. -/
def isKeyPart (c : Char) : Bool :=
  c.isAlphanum || c == '_' || c == '-'

/-- Takes a key without dots. -/
def simpleKey? : List Char → Option (String × List Char)
  | '"' :: rest => (basicString? rest).map fun (key, rest) => (String.ofList key, rest)
  | '\'' :: rest => (literalString? rest).map fun (key, rest) => (String.ofList key, rest)
  | text =>
      let key := text.takeWhile isKeyPart
      if key.isEmpty then none else some (String.ofList key, text.drop key.length)

/-- The greatest number of parts of a dotted key. -/
def keyLimit : Nat := 79

/-- Takes a key with at most `limit` parts, with dots between them. -/
def keyUpTo? : (limit : Nat) → List Char → Option (List String × List Char)
  | 0, _ => none
  | limit + 1, text => do
      let (part, rest) ← simpleKey? text
      match skipBlanks rest with
      | '.' :: rest =>
          let (parts, rest) ← keyUpTo? limit (skipBlanks rest)
          return (part :: parts, rest)
      | rest => return ([part], rest)

/-- Takes a key, and the blanks behind it. -/
def key? (text : List Char) : Option (List String × List Char) :=
  keyUpTo? keyLimit text

end RecordQuery.Toml
