import RecordQuery.Toml.Text
import RecordQuery.Toml.Value

/-!
# Numbers in TOML

Whole numbers in four bases and numbers with a fraction or an exponent. A single underscore may stand
between two digits. Whole numbers have to fit into 64 bits, and positive numbers with a fraction or an
exponent have to be finite in floating point.
-/

namespace RecordQuery.Toml

/-- Whether a run of digits and underscores begins and ends with a digit and has no two underscores in a
row. -/
def isWellSpaced : List Char → Bool
  | [] => false
  | ['_'] => false
  | [_] => true
  | '_' :: _ => false
  | _ :: '_' :: rest => isWellSpaced rest
  | _ :: rest => isWellSpaced rest

/-- Takes the digits at the head of a text, without the underscores between them. -/
def digits? (isDigit : Char → Bool) (text : List Char) : Option (List Char × List Char) :=
  let run := text.takeWhile fun c => isDigit c || c == '_'
  if isWellSpaced run then some (run.filter (· ≠ '_'), text.drop run.length) else none

def numberOf (base : Nat) (digits : List Char) : Nat :=
  digits.foldl (fun value digit => base * value + (hexDigit? digit).getD 0) 0

def fitsWord (value : Int) : Bool :=
  Int64.minValue.toInt ≤ value && value ≤ Int64.maxValue.toInt

/-- A whole number, if it fits. -/
def wholeNumber? (value : Int) (rest : List Char) : Option (Value × List Char) :=
  if fitsWord value then some (.integer value, rest) else none

def basedNumber? (base : Nat) (text : List Char) : Option (Value × List Char) := do
  let isDigit (c : Char) := (hexDigit? c).any (· < base)
  let (digits, rest) ← digits? isDigit text
  wholeNumber? (numberOf base digits) rest

def decimalDigits? (text : List Char) : Option (Int × List Char) :=
  (digits? Char.isDigit text).map fun (digits, rest) => (numberOf 10 digits, rest)

/-- Takes the exponent of a number, behind its letter. -/
def exponent? : List Char → Option (Int × List Char)
  | '+' :: rest => decimalDigits? rest
  | '-' :: rest => (decimalDigits? rest).map fun (exponent, rest) => (-exponent, rest)
  | text => decimalDigits? text

/-- Takes an exponent with its letter, or nothing if there is none. -/
def exponentPart? : List Char → Option (Int × List Char)
  | c :: rest => if c = 'e' || c = 'E' then exponent? rest else some (0, c :: rest)
  | [] => some (0, [])

/-- Takes what follows the digits of a number with a fraction or an exponent. -/
def floating? (negative : Bool) (digits fraction text : List Char) :
    Option (Value × List Char) := do
  let (exponent, rest) ← exponentPart? text
  let coefficient := numberOf 10 (digits ++ fraction)
  let number ← Floating.ofDecimal? ⟨negative, coefficient, exponent - fraction.length⟩
  return (.float number, rest)

/-- Takes a number in base ten behind its sign. -/
def decimal? (negative : Bool) (text : List Char) : Option (Value × List Char) := do
  let (digits, rest) ← digits? Char.isDigit text
  if digits.length > 1 && digits.head? == some '0' then none
  else
    match rest with
    | '.' :: rest =>
        let (fraction, rest) ← digits? Char.isDigit rest
        floating? negative digits fraction rest
    | 'e' :: _ => floating? negative digits [] rest
    | 'E' :: _ => floating? negative digits [] rest
    | _ =>
        let value : Int := numberOf 10 digits
        wholeNumber? (if negative then -value else value) rest

/-- Takes a number behind its sign. -/
def signedNumber? (negative : Bool) : List Char → Option (Value × List Char)
  | 'i' :: 'n' :: 'f' :: rest => some (.float (.infinity negative), rest)
  | 'n' :: 'a' :: 'n' :: rest => some (.float (.notNumber negative), rest)
  | text => decimal? negative text

def number? : List Char → Option (Value × List Char)
  | '+' :: rest => signedNumber? false rest
  | '-' :: rest => signedNumber? true rest
  | '0' :: 'x' :: rest => basedNumber? 16 rest
  | '0' :: 'o' :: rest => basedNumber? 8 rest
  | '0' :: 'b' :: rest => basedNumber? 2 rest
  | text => signedNumber? false text

end RecordQuery.Toml
