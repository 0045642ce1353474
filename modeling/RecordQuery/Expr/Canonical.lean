import RecordQuery.Expr.Basic
import RecordQuery.Token.Scan

/-!
# Canonical text

Every expression has one canonical text, which needs no sigils or status letters and can serve as a key
for the expression. Texts are always quoted, property values only where they have to be; parentheses
stand around a disjunction inside a conjunction and around what a negation applies to, nowhere else.
-/

namespace RecordQuery.Expr

/-- Whether a property value can be written without quotes. -/
def isBareValue (value : List Char) : Bool :=
  !value.isEmpty && value.all Lexeme.isWordPart

/-- A property value, in quotes where it has to be. -/
def writeValue (value : List Char) : List Char :=
  if isBareValue value then value else Quoted.write value

/-- A text leaf: the mark of its first signal, or its text in quotes. -/
def writeText (value : List Char) (caseSensitive : Bool) (signals : Signals) : List Char :=
  match signals.first? with
  | some signal => signal.mark
  | none => if caseSensitive then 'c' :: Quoted.write value else Quoted.write value

def parenthesize (text : List Char) : List Char :=
  '(' :: (text ++ [')'])

/-- Puts a negation in front of a text. Directly before two exclamation marks it is spelled out, since a
third one would make them the mark of a signal. -/
def writeNegation (text : List Char) : List Char :=
  if ['!', '!'].isPrefixOf text then 'N' :: 'O' :: 'T' :: ' ' :: text else '!' :: text

mutual

/-- The characters of the canonical text. -/
def write : Expr → List Char
  | text value caseSensitive signals => writeText value.toList caseSensitive signals
  | property key value => key.word.toList ++ ':' :: writeValue value.toList
  | and operands => [' ', 'A', 'N', 'D', ' '].intercalate (writeConjuncts operands)
  | or operands => [' ', 'O', 'R', ' '].intercalate (writeDisjuncts operands)
  | not operand =>
      match operand.signal? with
      | some signal => signal.absenceMark
      | none =>
          writeNegation (if operand.isCompound then parenthesize operand.write else operand.write)

def writeConjuncts : List Expr → List (List Char)
  | [] => []
  | operand :: rest =>
      (if operand.isOr then parenthesize operand.write else operand.write) :: writeConjuncts rest

def writeDisjuncts : List Expr → List (List Char)
  | [] => []
  | operand :: rest => operand.write :: writeDisjuncts rest

end

def canonical (expr : Expr) : String :=
  String.ofList expr.write

end RecordQuery.Expr
