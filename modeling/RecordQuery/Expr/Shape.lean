import RecordQuery.Expr.Basic

/-!
# The shape of expressions

A well-formed expression has at least two operands in each conjunction and disjunction, and asks for a
signal only in the way that its mark does. Flattening removes what the canonical text does not show:
conjunctions directly inside conjunctions, and disjunctions directly inside disjunctions. Nesting counts
what the canonical text needs parentheses and negations for.
-/

namespace RecordQuery.Expr

/-- Whether a text leaf asks for a plain text or for exactly one signal. -/
def IsLeaf (value : String) (caseSensitive : Bool) (signals : Signals) : Prop :=
  signals = Signals.quiet ∨ ∃ asked, text value caseSensitive signals = signal asked

mutual

/-- Each conjunction and disjunction has two operands or more, and each text leaf is a plain text or
exactly one signal. -/
def WellFormed : Expr → Prop
  | text value caseSensitive signals => IsLeaf value caseSensitive signals
  | property _ _ => True
  | and operands => 2 ≤ operands.length ∧ AllWellFormed operands
  | or operands => 2 ≤ operands.length ∧ AllWellFormed operands
  | not operand => operand.WellFormed

def AllWellFormed : List Expr → Prop
  | [] => True
  | operand :: rest => operand.WellFormed ∧ AllWellFormed rest

end

/-- The operands that an expression contributes to a conjunction around it. -/
def conjuncts : Expr → List Expr
  | and operands => operands
  | operand => [operand]

/-- The operands that an expression contributes to a disjunction around it. -/
def disjuncts : Expr → List Expr
  | or operands => operands
  | operand => [operand]

mutual

/-- Merges conjunctions directly inside conjunctions, and disjunctions directly inside disjunctions. -/
def flatten : Expr → Expr
  | text value caseSensitive signals => text value caseSensitive signals
  | property key value => property key value
  | and operands => and (flattenConjuncts operands)
  | or operands => or (flattenDisjuncts operands)
  | not operand => not operand.flatten

/-- The operands of a conjunction, with those of its conjunctions in their place. -/
def flattenConjuncts : List Expr → List Expr
  | [] => []
  | operand :: rest => operand.flatten.conjuncts ++ flattenConjuncts rest

/-- The operands of a disjunction, with those of its disjunctions in their place. -/
def flattenDisjuncts : List Expr → List Expr
  | [] => []
  | operand :: rest => operand.flatten.disjuncts ++ flattenDisjuncts rest

end

mutual

/-- The greatest number of negations and parentheses around a place in the canonical text. A negation of a
signal has a mark of its own and does not count. -/
def nesting : Expr → Nat
  | text _ _ _ => 0
  | property _ _ => 0
  | and operands => nestingOfConjuncts operands
  | or operands => nestingOfDisjuncts operands
  | not operand =>
      if operand.signal?.isSome then 0
      else if operand.isCompound then operand.nesting + 2
      else operand.nesting + 1

/-- The nesting of the operands of a conjunction, where a disjunction needs parentheses. -/
def nestingOfConjuncts : List Expr → Nat
  | [] => 0
  | operand :: rest =>
      max (if operand.isOr then operand.nesting + 1 else operand.nesting) (nestingOfConjuncts rest)

def nestingOfDisjuncts : List Expr → Nat
  | [] => 0
  | operand :: rest => max operand.nesting (nestingOfDisjuncts rest)

end

mutual

/-- The greatest number of expressions inside each other, from the whole to a leaf. -/
def height : Expr → Nat
  | text _ _ _ => 1
  | property _ _ => 1
  | and operands => heightOfList operands + 1
  | or operands => heightOfList operands + 1
  | not operand => operand.height + 1

def heightOfList : List Expr → Nat
  | [] => 0
  | operand :: rest => max operand.height (heightOfList rest)

end

/-! ## Building well-formed expressions -/

section WellFormed

theorem wellFormed_string (value : String) (caseSensitive : Bool) :
    (string value caseSensitive).WellFormed :=
  Or.inl rfl

theorem wellFormed_signal (asked : Signal) : (signal asked).WellFormed :=
  Or.inr ⟨asked, rfl⟩

theorem wellFormed_anySignal : anySignal.WellFormed :=
  ⟨by decide, wellFormed_signal _, wellFormed_signal _, wellFormed_signal _, trivial⟩

theorem wellFormed_negated {condition : Expr} (wellFormed : condition.WellFormed) :
    ∀ count : Nat, (negated count condition).WellFormed
  | 0 => wellFormed
  | count + 1 => wellFormed_negated wellFormed count

theorem allWellFormed_iff {conditions : List Expr} :
    AllWellFormed conditions ↔ ∀ condition ∈ conditions, condition.WellFormed := by
  induction conditions with
  | nil => simp [AllWellFormed]
  | cons condition rest inductionHypothesis => simp [AllWellFormed, inductionHypothesis]

theorem wellFormed_allOf {conditions : List Expr} (nonempty : conditions ≠ [])
    (wellFormed : AllWellFormed conditions) : (allOf conditions).WellFormed := by
  match conditions, nonempty with
  | [condition], _ => exact wellFormed.1
  | first :: second :: rest, _ =>
      exact ⟨Nat.le_add_left 2 rest.length, wellFormed⟩

theorem wellFormed_anyOf {conditions : List Expr} (nonempty : conditions ≠ [])
    (wellFormed : AllWellFormed conditions) : (anyOf conditions).WellFormed := by
  match conditions, nonempty with
  | [condition], _ => exact wellFormed.1
  | first :: second :: rest, _ =>
      exact ⟨Nat.le_add_left 2 rest.length, wellFormed⟩

end WellFormed

end RecordQuery.Expr
