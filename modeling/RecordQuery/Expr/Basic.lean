import RecordQuery.PropertyKey
import RecordQuery.Signal

/-!
# Query expressions

What a query asks of a record. A text leaf that carries signals asks for the first of them; without
signals it asks for its text.
-/

namespace RecordQuery

/-- A condition on records. -/
inductive Expr where
  | text (value : String) (caseSensitive : Bool) (signals : Signals)
  | property (key : PropertyKey) (value : String)
  | and (operands : List Expr)
  | or (operands : List Expr)
  | not (operand : Expr)
  deriving Repr

namespace Expr

def string (value : String) (caseSensitive : Bool) : Expr :=
  text value caseSensitive Signals.quiet

def signal (signal : Signal) : Expr :=
  text (String.ofList signal.mark) false (Signals.only signal)

def anySignal : Expr :=
  or (Signal.all.map signal)

/-- The conjunction of some conditions; a lone condition stands for itself. -/
def allOf : List Expr → Expr
  | [condition] => condition
  | conditions => and conditions

/-- The disjunction of some conditions; a lone condition stands for itself. -/
def anyOf : List Expr → Expr
  | [condition] => condition
  | conditions => or conditions

/-- A condition under a number of negations. -/
def negated : Nat → Expr → Expr
  | 0, condition => condition
  | count + 1, condition => not (negated count condition)

/-- The signal that a condition asks for, if it is a lone signal. -/
def signal? : Expr → Option Signal
  | text _ _ signals => signals.first?
  | _ => none

def isOr : Expr → Bool
  | or _ => true
  | _ => false

/-- Whether a condition is a conjunction or a disjunction. -/
def isCompound : Expr → Bool
  | and _ => true
  | or _ => true
  | _ => false

/-! ## Equality -/

mutual

def decideEq : (left right : Expr) → Decidable (left = right)
  | text value sensitive signals, text value' sensitive' signals' =>
      decidable_of_iff (value = value' ∧ sensitive = sensitive' ∧ signals = signals') (by simp)
  | property key value, property key' value' =>
      decidable_of_iff (key = key' ∧ value = value') (by simp)
  | and operands, and operands' =>
      have := decideEqList operands operands'
      decidable_of_iff (operands = operands') (by simp)
  | or operands, or operands' =>
      have := decideEqList operands operands'
      decidable_of_iff (operands = operands') (by simp)
  | not operand, not operand' =>
      have := decideEq operand operand'
      decidable_of_iff (operand = operand') (by simp)
  | text .., property .. => isFalse (by simp)
  | text .., and _ => isFalse (by simp)
  | text .., or _ => isFalse (by simp)
  | text .., not _ => isFalse (by simp)
  | property .., text .. => isFalse (by simp)
  | property .., and _ => isFalse (by simp)
  | property .., or _ => isFalse (by simp)
  | property .., not _ => isFalse (by simp)
  | and _, text .. => isFalse (by simp)
  | and _, property .. => isFalse (by simp)
  | and _, or _ => isFalse (by simp)
  | and _, not _ => isFalse (by simp)
  | or _, text .. => isFalse (by simp)
  | or _, property .. => isFalse (by simp)
  | or _, and _ => isFalse (by simp)
  | or _, not _ => isFalse (by simp)
  | not _, text .. => isFalse (by simp)
  | not _, property .. => isFalse (by simp)
  | not _, and _ => isFalse (by simp)
  | not _, or _ => isFalse (by simp)

def decideEqList : (left right : List Expr) → Decidable (left = right)
  | [], [] => isTrue rfl
  | head :: tail, head' :: tail' =>
      have := decideEq head head'
      have := decideEqList tail tail'
      decidable_of_iff (head = head' ∧ tail = tail') (by simp)
  | [], _ :: _ => isFalse (by simp)
  | _ :: _, [] => isFalse (by simp)

end

instance : DecidableEq Expr := decideEq

end Expr

end RecordQuery
