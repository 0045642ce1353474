import RecordQuery.Toml.Number

/-!
# Dates and times in TOML

A moment is a date, a time, or a date and a time, which may have an offset. Its text is written in one way
whatever the spelling was: a `T` between date and time, no zeros at the end of a fraction of a second,
at most nine places of it.
-/

namespace RecordQuery.Toml

def twoDigits? : List Char → Option (Nat × List Char)
  | a :: b :: rest =>
      if a.isDigit && b.isDigit then some (numberOf 10 [a, b], rest) else none
  | _ => none

def mark? (mark : Char) : List Char → Option (List Char)
  | c :: rest => if c = mark then some rest else none
  | [] => none

def showTwo (value : Nat) : List Char :=
  [Nat.digitChar (value / 10), Nat.digitChar (value % 10)]

def isLeapYear (year : Nat) : Bool :=
  year % 4 == 0 && (year % 100 != 0 || year % 400 == 0)

def daysIn (year month : Nat) : Nat :=
  if month == 2 then (if isLeapYear year then 29 else 28)
  else if [4, 6, 9, 11].contains month then 30
  else 31

def date? : List Char → Option (List Char × List Char)
  | a :: b :: c :: d :: rest => do
      if [a, b, c, d].all Char.isDigit then
        let rest ← mark? '-' rest
        let (month, rest) ← twoDigits? rest
        let rest ← mark? '-' rest
        let (day, rest) ← twoDigits? rest
        let year := numberOf 10 [a, b, c, d]
        if 1 ≤ month && month ≤ 12 && 1 ≤ day && day ≤ daysIn year month then
          return ([a, b, c, d, '-'] ++ showTwo month ++ '-' :: showTwo day, rest)
        else none
      else none
  | _ => none

/-- A fraction of a second, at most nine places without zeros at the end. -/
def showFraction (digits : List Char) : List Char :=
  match ((digits.take 9).reverse.dropWhile (· == '0')).reverse with
  | [] => []
  | places => '.' :: places

/-- Takes the fraction of a second, if there is one. -/
def fraction? : List Char → Option (List Char × List Char)
  | '.' :: rest =>
      let digits := rest.takeWhile Char.isDigit
      if digits.isEmpty then none else some (showFraction digits, rest.drop digits.length)
  | text => some ([], text)

def time? (text : List Char) : Option (List Char × List Char) := do
  let (hour, rest) ← twoDigits? text
  let rest ← mark? ':' rest
  let (minute, rest) ← twoDigits? rest
  let rest ← mark? ':' rest
  let (second, rest) ← twoDigits? rest
  if hour ≤ 23 && minute ≤ 59 && second ≤ 60 then
    let (fraction, rest) ← fraction? rest
    return (showTwo hour ++ ':' :: showTwo minute ++ ':' :: showTwo second ++ fraction, rest)
  else none

def offsetDistance? (sign : Char) (text : List Char) : Option (List Char × List Char) := do
  let (hours, rest) ← twoDigits? text
  let rest ← mark? ':' rest
  let (minutes, rest) ← twoDigits? rest
  if hours ≤ 23 && minutes ≤ 59 then
    let sign := if hours == 0 && minutes == 0 then '+' else sign
    return (sign :: showTwo hours ++ ':' :: showTwo minutes, rest)
  else none

/-- Takes the offset of a time, if there is one. -/
def offset? : List Char → Option (List Char × List Char)
  | 'Z' :: rest => some (['Z'], rest)
  | 'z' :: rest => some (['Z'], rest)
  | '+' :: rest => offsetDistance? '+' rest
  | '-' :: rest => offsetDistance? '-' rest
  | text => some ([], text)

/-- Takes the time behind a date, if there is one. -/
def timeOfDay? : List Char → Option (List Char × List Char)
  | c :: rest =>
      if c = 'T' || c = 't' || (c = ' ' && (twoDigits? rest).isSome) then do
        let (time, rest) ← time? rest
        let (offset, rest) ← offset? rest
        return ('T' :: time ++ offset, rest)
      else some ([], c :: rest)
  | [] => some ([], [])

def datedMoment? (text : List Char) : Option (Value × List Char) := do
  let (date, rest) ← date? text
  let (time, rest) ← timeOfDay? rest
  return (.moment (String.ofList (date ++ time)), rest)

/-- Takes a number or a moment. Four digits and a dash begin a date, two digits and a colon a time. -/
def numberOrMoment? (text : List Char) : Option (Value × List Char) :=
  let digits := text.takeWhile Char.isDigit
  match text.drop digits.length with
  | '-' :: _ => if digits.length == 4 then datedMoment? text else number? text
  | ':' :: _ => do
      let (time, rest) ← time? text
      return (.moment (String.ofList time), rest)
  | _ => number? text

end RecordQuery.Toml
