import RecordQuery.Expr.Canonical
import RecordQuery.Expr.Matching
import RecordQuery.Expr.Shape

/-!
# Operands

Induction over expressions with one hypothesis for each operand, and the functions on rows of operands
as maps of the functions on a single operand.
-/

namespace RecordQuery.Expr

/-- Induction over an expression, with a hypothesis for every operand. -/
@[elab_as_elim]
theorem induction {motive : Expr → Prop}
    (text : ∀ value caseSensitive signals,
      motive (.text value caseSensitive signals))
    (property : ∀ key value, motive (.property key value))
    (and : ∀ operands, (∀ operand ∈ operands, motive operand) →
      motive (.and operands))
    (or : ∀ operands, (∀ operand ∈ operands, motive operand) →
      motive (.or operands))
    (not : ∀ operand, motive operand → motive (.not operand)) :
    ∀ expr, motive expr :=
  @Expr.rec motive
    (fun operands => ∀ operand ∈ operands, motive operand)
    text property and or not
    (fun _ member => nomatch member)
    (fun head tail headHolds tailHolds operand member => by
      rcases List.mem_cons.mp member with equal | tailMember
      · exact equal ▸ headHolds
      · exact tailHolds operand tailMember)

/-! ## Rows of operands -/

section Rows

/-- The text of an operand of AND. -/
def writeConjunct (operand : Expr) : List Char :=
  if operand.isOr then parenthesize operand.write else operand.write

/-- The text of what a negation applies to. -/
def writeOperand (operand : Expr) : List Char :=
  if operand.isCompound then parenthesize operand.write else operand.write

theorem writeConjuncts_eq_map (operands : List Expr) :
    writeConjuncts operands = operands.map writeConjunct := by
  induction operands with
  | nil => rfl
  | cons operand rest inductionHypothesis =>
      rw [writeConjuncts, inductionHypothesis]
      rfl

theorem writeDisjuncts_eq_map (operands : List Expr) :
    writeDisjuncts operands = operands.map write := by
  induction operands with
  | nil => rfl
  | cons operand rest inductionHypothesis =>
      rw [writeDisjuncts, inductionHypothesis]
      rfl

theorem flattenConjuncts_eq_flatMap (operands : List Expr) :
    flattenConjuncts operands =
      operands.flatMap fun operand => operand.flatten.conjuncts := by
  induction operands with
  | nil => rfl
  | cons operand rest inductionHypothesis =>
      rw [flattenConjuncts, inductionHypothesis, List.flatMap_cons]

theorem flattenDisjuncts_eq_flatMap (operands : List Expr) :
    flattenDisjuncts operands =
      operands.flatMap fun operand => operand.flatten.disjuncts := by
  induction operands with
  | nil => rfl
  | cons operand rest inductionHypothesis =>
      rw [flattenDisjuncts, inductionHypothesis, List.flatMap_cons]

theorem allHold_eq_all
    (lineage : Option Lineage) (record : Record) (operands : List Expr) :
    allHold lineage record operands =
      operands.all (holds lineage record) := by
  induction operands with
  | nil => rfl
  | cons operand rest inductionHypothesis =>
      rw [allHold, inductionHypothesis, List.all_cons]

theorem anyHolds_eq_any
    (lineage : Option Lineage) (record : Record) (operands : List Expr) :
    anyHolds lineage record operands =
      operands.any (holds lineage record) := by
  induction operands with
  | nil => rfl
  | cons operand rest inductionHypothesis =>
      rw [anyHolds, inductionHypothesis, List.any_cons]

end Rows

/-! ## Well-formed operands -/

section WellFormed

theorem wellFormed_and_iff {operands : List Expr} :
    (and operands).WellFormed ↔
      2 ≤ operands.length ∧ ∀ operand ∈ operands, operand.WellFormed := by
  rw [WellFormed, allWellFormed_iff]

theorem wellFormed_or_iff {operands : List Expr} :
    (or operands).WellFormed ↔
      2 ≤ operands.length ∧ ∀ operand ∈ operands, operand.WellFormed := by
  rw [WellFormed, allWellFormed_iff]

/-- A well-formed leaf is a plain text or the condition that its signal is raised. -/
theorem eq_string_or_eq_signal {value : String} {caseSensitive : Bool}
    {signals : Signals}
    (wellFormed : (text value caseSensitive signals).WellFormed) :
    text value caseSensitive signals = string value caseSensitive ∨
      ∃ asked, text value caseSensitive signals = signal asked := by
  rcases wellFormed with quiet | isSignal
  · exact Or.inl (by rw [quiet, string])
  · exact Or.inr isSignal

theorem eq_signal_of_signal? {expr : Expr} {asked : Signal}
    (wellFormed : expr.WellFormed) (isSignal : expr.signal? = some asked) :
    expr = signal asked := by
  cases expr with
  | text value caseSensitive signals =>
      rcases wellFormed with quiet | ⟨other, isOther⟩
      · rw [signal?, quiet, Signals.first?_quiet] at isSignal
        cases isSignal
      · have found : (signal other).signal? = some other :=
          Signals.first?_only other
        rw [isOther, found] at isSignal
        rw [isOther, Option.some.inj isSignal]
  | _ => cases isSignal

end WellFormed

/-! ## Nesting of operands -/

section Nesting

/-- The nesting of an operand of AND. -/
def conjunctNesting (operand : Expr) : Nat :=
  if operand.isOr then operand.nesting + 1 else operand.nesting

/-- The nesting of what a negation applies to. -/
def operandNesting (operand : Expr) : Nat :=
  if operand.isCompound then operand.nesting + 1 else operand.nesting

theorem isCompound_of_isOr {expr : Expr} (isOr : expr.isOr = true) :
    expr.isCompound = true := by
  cases expr with
  | or operands => rfl
  | _ => cases isOr

theorem nesting_le_conjunctNesting (operand : Expr) :
    operand.nesting ≤ operand.conjunctNesting := by
  rw [conjunctNesting]
  split <;> omega

theorem conjunctNesting_le_operandNesting (operand : Expr) :
    operand.conjunctNesting ≤ operand.operandNesting := by
  rw [conjunctNesting, operandNesting]
  by_cases isOr : operand.isOr = true
  · have isCompound := isCompound_of_isOr isOr
    simp [isOr, isCompound]
  · rw [if_neg isOr]
    split <;> omega

theorem operandNesting_le (operand : Expr) :
    operand.operandNesting ≤ operand.nesting + 1 := by
  rw [operandNesting]
  split <;> omega

theorem nesting_not_of_signal {operand : Expr} {asked : Signal}
    (isSignal : operand.signal? = some asked) : (not operand).nesting = 0 := by
  rw [nesting, isSignal]
  rfl

theorem nesting_not {operand : Expr} (noSignal : operand.signal? = none) :
    (not operand).nesting = operand.operandNesting + 1 := by
  rw [nesting, noSignal, operandNesting]
  split
  · next isSome => cases isSome
  · split <;> rfl

theorem nesting_not_le (operand : Expr) :
    (not operand).nesting ≤ operand.operandNesting + 1 := by
  cases known : operand.signal? with
  | none => exact Nat.le_of_eq (nesting_not known)
  | some asked =>
      rw [nesting_not_of_signal known]
      exact Nat.zero_le _

theorem nestingOfConjuncts_eq_foldr (operands : List Expr) :
    nestingOfConjuncts operands =
      (operands.map conjunctNesting).foldr max 0 := by
  induction operands with
  | nil => rfl
  | cons operand rest inductionHypothesis =>
      rw [nestingOfConjuncts, inductionHypothesis]
      rfl

theorem nestingOfDisjuncts_eq_foldr (operands : List Expr) :
    nestingOfDisjuncts operands =
      (operands.map nesting).foldr max 0 := by
  induction operands with
  | nil => rfl
  | cons operand rest inductionHypothesis =>
      rw [nestingOfDisjuncts, inductionHypothesis]
      rfl

theorem foldr_max_le_iff {depths : List Nat} {bound : Nat} :
    depths.foldr max 0 ≤ bound ↔ ∀ depth ∈ depths, depth ≤ bound := by
  induction depths with
  | nil => simp
  | cons depth rest inductionHypothesis =>
      rw [List.foldr_cons, Nat.max_le, inductionHypothesis,
        List.forall_mem_cons]

theorem nestingOfConjuncts_le_iff {operands : List Expr} {bound : Nat} :
    nestingOfConjuncts operands ≤ bound ↔
      ∀ operand ∈ operands, operand.conjunctNesting ≤ bound := by
  rw [nestingOfConjuncts_eq_foldr, foldr_max_le_iff, List.forall_mem_map]

theorem nestingOfDisjuncts_le_iff {operands : List Expr} {bound : Nat} :
    nestingOfDisjuncts operands ≤ bound ↔
      ∀ operand ∈ operands, operand.nesting ≤ bound := by
  rw [nestingOfDisjuncts_eq_foldr, foldr_max_le_iff, List.forall_mem_map]

end Nesting

end RecordQuery.Expr
