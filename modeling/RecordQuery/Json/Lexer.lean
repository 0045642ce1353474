/-!
# The parts of a JSON text

A JSON text is a row of marks, strings, numbers and the three words. Between them stand spaces, tabs
and line ends only.
-/

namespace RecordQuery.Json

/-- A part of a JSON text. A string whose escapes name half of a surrogate pair has no text. -/
inductive Part where
  | openBrace
  | closeBrace
  | openBracket
  | closeBracket
  | colon
  | comma
  | string (text : Option String)
  | number (spelling : String)
  | null
  | true
  | false
  deriving DecidableEq, Repr

/-! ## Strings -/

def hexValue? (c : Char) : Option Nat :=
  if '0' ≤ c && c ≤ '9' then some (c.toNat - '0'.toNat)
  else if 'a' ≤ c && c ≤ 'f' then some (c.toNat - 'a'.toNat + 10)
  else if 'A' ≤ c && c ≤ 'F' then some (c.toNat - 'A'.toNat + 10)
  else none

def hexCode? (a b c d : Char) : Option Nat := do
  let digits ← [a, b, c, d].mapM hexValue?
  return digits.foldl (fun code digit => 16 * code + digit) 0

def escapeMeaning? : Char → Option Char
  | '"' => some '"'
  | '\\' => some '\\'
  | '/' => some '/'
  | 'b' => some '\x08'
  | 'f' => some '\x0c'
  | 'n' => some '\n'
  | 'r' => some '\r'
  | 't' => some '\t'
  | _ => none

/-- The code points and surrogates that a string spells, and the text behind its closing quote. -/
def stringCodes? : List Char → Option (List Nat × List Char)
  | [] => none
  | '"' :: rest => some ([], rest)
  | '\\' :: 'u' :: a :: b :: c :: d :: rest => do
      let code ← hexCode? a b c d
      let (codes, rest) ← stringCodes? rest
      return (code :: codes, rest)
  | '\\' :: c :: rest => do
      let meant ← escapeMeaning? c
      let (codes, rest) ← stringCodes? rest
      return (meant.toNat :: codes, rest)
  | c :: rest =>
      if c.toNat < 0x20 || c = '\\' then none
      else do
        let (codes, rest) ← stringCodes? rest
        return (c.toNat :: codes, rest)

/-- Whether a code is the first half of a surrogate pair. -/
def isHighSurrogate (code : Nat) : Bool :=
  0xD800 ≤ code && code ≤ 0xDBFF

def isLowSurrogate (code : Nat) : Bool :=
  0xDC00 ≤ code && code ≤ 0xDFFF

/-- The characters for a row of codes, in which neighbouring halves of a surrogate pair are one
character. There are none if a half stands alone. -/
def charactersOfCodes? : List Nat → Option (List Char)
  | [] => some []
  | high :: low :: rest =>
      if isHighSurrogate high && isLowSurrogate low then
        let code := 0x10000 + (high - 0xD800) * 0x400 + (low - 0xDC00)
        (charactersOfCodes? rest).map (Char.ofNat code :: ·)
      else if isHighSurrogate high || isLowSurrogate high then none
      else (charactersOfCodes? (low :: rest)).map (Char.ofNat high :: ·)
  | [code] => if isHighSurrogate code || isLowSurrogate code then none else some [Char.ofNat code]

/-! ## Numbers -/

/-- Takes the digits at the head of a text; there has to be one at least. -/
def digits? (text : List Char) : Option (List Char × List Char) :=
  let digits := text.takeWhile Char.isDigit
  if digits.isEmpty then none else some (digits, text.dropWhile Char.isDigit)

/-- Takes the part of a number before the point: one zero, or digits that do not begin with a zero. -/
def wholePart? : List Char → Option (List Char × List Char)
  | '0' :: rest => some (['0'], rest)
  | text => digits? text

/-- Takes the point of a number and the digits behind it, if there is a point. -/
def fraction? : List Char → Option (List Char × List Char)
  | '.' :: rest => do
      let (digits, rest) ← digits? rest
      return ('.' :: digits, rest)
  | text => some ([], text)

/-- Takes the exponent of a number, if there is one. -/
def exponent? : List Char → Option (List Char × List Char)
  | e :: sign :: rest =>
      if e = 'e' || e = 'E' then
        if sign = '+' || sign = '-' then do
          let (digits, rest) ← digits? rest
          return (e :: sign :: digits, rest)
        else do
          let (digits, rest) ← digits? (sign :: rest)
          return (e :: digits, rest)
      else some ([], e :: sign :: rest)
  | [e] => if e = 'e' || e = 'E' then none else some ([], [e])
  | [] => some ([], [])

/-- Takes the minus sign of a number, if there is one. -/
def minus : List Char → List Char × List Char
  | '-' :: rest => (['-'], rest)
  | text => ([], text)

def number? (text : List Char) : Option (List Char × List Char) := do
  let (sign, text) := minus text
  let (whole, text) ← wholePart? text
  let (fraction, text) ← fraction? text
  let (exponent, text) ← exponent? text
  return (sign ++ whole ++ fraction ++ exponent, text)

/-! ## Parts -/

def isSpace (c : Char) : Bool :=
  c == ' ' || c == '\t' || c == '\n' || c == '\r'

def part? : List Char → Option (Part × List Char)
  | '\x7b' :: rest => some (.openBrace, rest)
  | '\x7d' :: rest => some (.closeBrace, rest)
  | '[' :: rest => some (.openBracket, rest)
  | ']' :: rest => some (.closeBracket, rest)
  | ':' :: rest => some (.colon, rest)
  | ',' :: rest => some (.comma, rest)
  | '"' :: rest => do
      let (codes, rest) ← stringCodes? rest
      return (.string ((charactersOfCodes? codes).map String.ofList), rest)
  | 'n' :: 'u' :: 'l' :: 'l' :: rest => some (.null, rest)
  | 't' :: 'r' :: 'u' :: 'e' :: rest => some (.true, rest)
  | 'f' :: 'a' :: 'l' :: 's' :: 'e' :: rest => some (.false, rest)
  | text => do
      let (spelling, rest) ← number? text
      return (.number (String.ofList spelling), rest)

/-- The parts of a text, at most `limit` of them. -/
def partsUpTo? : (limit : Nat) → List Char → Option (List Part)
  | 0, text => if (text.dropWhile isSpace).isEmpty then some [] else none
  | limit + 1, text =>
      match text.dropWhile isSpace with
      | [] => some []
      | c :: rest => do
          let (part, rest) ← part? (c :: rest)
          let parts ← partsUpTo? limit rest
          return part :: parts

/-- The parts of a JSON text. A part has one character at least, so that there are no more parts than
characters. -/
def parts? (text : List Char) : Option (List Part) :=
  partsUpTo? text.length text

end RecordQuery.Json
