import RecordQuery.Proofs.Operands

/-!
# Flattening

Flattening an expression keeps its shape, its meaning and its canonical text. The operands that a
flattened expression contributes to the conjunction or disjunction around it make it up again.
-/

namespace RecordQuery

/-! ## Rows -/

section Rows

variable {alpha beta : Type}

theorem intercalate_append (separator : List alpha) :
    ∀ {left right : List (List alpha)}, left ≠ [] → right ≠ [] →
      separator.intercalate (left ++ right) =
        separator.intercalate left ++ separator ++
          separator.intercalate right
  | [], _, leftNonempty, _ => absurd rfl leftNonempty
  | [first], right, _, rightNonempty => by
      rw [List.singleton_append, List.intercalate_singleton,
        List.intercalate_cons_of_ne_nil rightNonempty]
  | first :: second :: rest, right, _, rightNonempty => by
      have tail :=
        intercalate_append separator
          (List.cons_ne_nil second rest) rightNonempty
      have tailNonempty : second :: rest ++ right ≠ [] :=
        List.cons_ne_nil second (rest ++ right)
      rw [List.cons_append,
        List.intercalate_cons_of_ne_nil tailNonempty,
        tail, List.intercalate_cons_cons]
      simp only [List.append_assoc]

/-- Rows that are joined in groups make the same whole. -/
theorem intercalate_flatMap
    (separator : List alpha) {items : List beta}
    {group : beta → List (List alpha)}
    (nonempty : ∀ item ∈ items, group item ≠ []) :
    separator.intercalate (items.flatMap group) =
      separator.intercalate
        (items.map fun item => separator.intercalate (group item)) := by
  induction items with
  | nil => rfl
  | cons first rest inductionHypothesis =>
      have restNonempty : ∀ item ∈ rest, group item ≠ [] :=
        fun item member => nonempty item (List.mem_cons_of_mem first member)
      have firstNonempty := nonempty first List.mem_cons_self
      cases rest with
      | nil => simp
      | cons second others =>
          have othersNonempty :
              (second :: others).flatMap group ≠ [] := by
            simp [restNonempty second List.mem_cons_self]
          rw [List.flatMap_cons,
            intercalate_append separator firstNonempty othersNonempty,
            inductionHypothesis restNonempty, List.map_cons,
            List.map_cons, List.map_cons,
            List.intercalate_cons_cons]

theorem length_le_length_flatMap
    {items : List beta} {group : beta → List alpha}
    (nonempty : ∀ item ∈ items, group item ≠ []) :
    items.length ≤ (items.flatMap group).length := by
  induction items with
  | nil => exact Nat.zero_le _
  | cons first rest inductionHypothesis =>
      have firstPositive : 0 < (group first).length :=
        List.length_pos_iff.mpr (nonempty first List.mem_cons_self)
      have tail := inductionHypothesis fun item member =>
        nonempty item (List.mem_cons_of_mem first member)
      rw [List.flatMap_cons, List.length_append, List.length_cons]
      omega

theorem all_congr_of_mem {items : List alpha} {test test' : alpha → Bool}
    (same : ∀ item ∈ items, test item = test' item) :
    items.all test = items.all test' := by
  induction items with
  | nil => rfl
  | cons first rest inductionHypothesis =>
      rw [List.all_cons, List.all_cons, same first List.mem_cons_self,
        inductionHypothesis fun item member =>
          same item (List.mem_cons_of_mem first member)]

theorem any_congr_of_mem {items : List alpha} {test test' : alpha → Bool}
    (same : ∀ item ∈ items, test item = test' item) :
    items.any test = items.any test' := by
  induction items with
  | nil => rfl
  | cons first rest inductionHypothesis =>
      rw [List.any_cons, List.any_cons, same first List.mem_cons_self,
        inductionHypothesis fun item member =>
          same item (List.mem_cons_of_mem first member)]

end Rows

namespace Expr

/-! ## The kind of a flattened expression -/

section Kind

@[simp]
theorem isOr_flatten (expr : Expr) : expr.flatten.isOr = expr.isOr := by
  cases expr <;> rfl

@[simp]
theorem isCompound_flatten (expr : Expr) :
    expr.flatten.isCompound = expr.isCompound := by
  cases expr <;> rfl

@[simp]
theorem signal?_flatten (expr : Expr) :
    expr.flatten.signal? = expr.signal? := by
  cases expr <;> rfl

end Kind

/-! ## Contributed operands -/

section Contributed

theorem conjuncts_ne_nil {expr : Expr} (wellFormed : expr.WellFormed) :
    expr.conjuncts ≠ [] := by
  cases expr with
  | and operands =>
      have count := (wellFormed_and_iff.mp wellFormed).1
      intro empty
      rw [conjuncts] at empty
      simp [empty] at count
  | _ => exact List.cons_ne_nil _ _

theorem disjuncts_ne_nil {expr : Expr} (wellFormed : expr.WellFormed) :
    expr.disjuncts ≠ [] := by
  cases expr with
  | or operands =>
      have count := (wellFormed_or_iff.mp wellFormed).1
      intro empty
      rw [disjuncts] at empty
      simp [empty] at count
  | _ => exact List.cons_ne_nil _ _

theorem conjuncts_of_not_isCompound {expr : Expr}
    (simple : expr.isCompound = false) : expr.conjuncts = [expr] := by
  cases expr with
  | and operands => cases simple
  | _ => rfl

theorem disjuncts_of_not_isCompound {expr : Expr}
    (simple : expr.isCompound = false) : expr.disjuncts = [expr] := by
  cases expr with
  | or operands => cases simple
  | _ => rfl

theorem wellFormed_of_mem_conjuncts {expr operand : Expr}
    (wellFormed : expr.WellFormed) (member : operand ∈ expr.conjuncts) :
    operand.WellFormed := by
  cases expr with
  | and operands =>
      exact (wellFormed_and_iff.mp wellFormed).2 operand member
  | _ => exact List.mem_singleton.mp member ▸ wellFormed

theorem wellFormed_of_mem_disjuncts {expr operand : Expr}
    (wellFormed : expr.WellFormed) (member : operand ∈ expr.disjuncts) :
    operand.WellFormed := by
  cases expr with
  | or operands =>
      exact (wellFormed_or_iff.mp wellFormed).2 operand member
  | _ => exact List.mem_singleton.mp member ▸ wellFormed

theorem allOf_of_two_le {operands : List Expr}
    (count : 2 ≤ operands.length) : allOf operands = and operands := by
  match operands, count with
  | first :: second :: rest, _ => rfl

theorem anyOf_of_two_le {operands : List Expr}
    (count : 2 ≤ operands.length) : anyOf operands = or operands := by
  match operands, count with
  | first :: second :: rest, _ => rfl

/-- The contributions to a conjunction make up the expression. -/
theorem allOf_conjuncts {expr : Expr} (wellFormed : expr.WellFormed) :
    allOf expr.conjuncts = expr := by
  cases expr with
  | and operands =>
      exact allOf_of_two_le (wellFormed_and_iff.mp wellFormed).1
  | _ => rfl

/-- The contributions to a disjunction make up the expression. -/
theorem anyOf_disjuncts {expr : Expr} (wellFormed : expr.WellFormed) :
    anyOf expr.disjuncts = expr := by
  cases expr with
  | or operands =>
      exact anyOf_of_two_le (wellFormed_or_iff.mp wellFormed).1
  | _ => rfl

end Contributed

/-! ## What flattening keeps -/

section Kept

theorem wellFormed_flatten {expr : Expr} :
    expr.WellFormed → expr.flatten.WellFormed := by
  induction expr using induction with
  | text => exact id
  | property => exact id
  | not operand inductionHypothesis => exact inductionHypothesis
  | and operands inductionHypothesis =>
      intro wellFormed
      obtain ⟨count, all⟩ := wellFormed_and_iff.mp wellFormed
      have flattened : ∀ operand ∈ operands, operand.flatten.WellFormed :=
        fun operand member =>
          inductionHypothesis operand member (all operand member)
      rw [flatten, flattenConjuncts_eq_flatMap, wellFormed_and_iff]
      constructor
      · exact Nat.le_trans count <| length_le_length_flatMap
          fun operand member => conjuncts_ne_nil (flattened operand member)
      · intro conjunct conjunctMember
        obtain ⟨operand, member, contributed⟩ :=
          List.mem_flatMap.mp conjunctMember
        exact wellFormed_of_mem_conjuncts (flattened operand member) contributed
  | or operands inductionHypothesis =>
      intro wellFormed
      obtain ⟨count, all⟩ := wellFormed_or_iff.mp wellFormed
      have flattened : ∀ operand ∈ operands, operand.flatten.WellFormed :=
        fun operand member =>
          inductionHypothesis operand member (all operand member)
      rw [flatten, flattenDisjuncts_eq_flatMap, wellFormed_or_iff]
      constructor
      · exact Nat.le_trans count <| length_le_length_flatMap
          fun operand member => disjuncts_ne_nil (flattened operand member)
      · intro disjunct disjunctMember
        obtain ⟨operand, member, contributed⟩ :=
          List.mem_flatMap.mp disjunctMember
        exact wellFormed_of_mem_disjuncts (flattened operand member) contributed

variable (lineage : Option Lineage) (record : Record)

theorem all_holds_conjuncts (expr : Expr) :
    expr.conjuncts.all (holds lineage record) =
      expr.holds lineage record := by
  cases expr with
  | and operands => rw [conjuncts, holds, allHold_eq_all]
  | _ => exact Bool.and_true _

theorem any_holds_disjuncts (expr : Expr) :
    expr.disjuncts.any (holds lineage record) =
      expr.holds lineage record := by
  cases expr with
  | or operands => rw [disjuncts, holds, anyHolds_eq_any]
  | _ => exact Bool.or_false _

/-- A record fulfils the flattened expression just when it fulfils the expression. -/
theorem holds_flatten (expr : Expr) :
    expr.flatten.holds lineage record = expr.holds lineage record := by
  induction expr using induction with
  | text => rfl
  | property => rfl
  | not operand inductionHypothesis =>
      rw [flatten, holds, holds, inductionHypothesis]
  | and operands inductionHypothesis =>
      rw [flatten, holds, holds, allHold_eq_all, allHold_eq_all,
        flattenConjuncts_eq_flatMap, List.all_flatMap]
      refine all_congr_of_mem fun operand member => ?_
      rw [all_holds_conjuncts]
      exact inductionHypothesis operand member
  | or operands inductionHypothesis =>
      rw [flatten, holds, holds, anyHolds_eq_any, anyHolds_eq_any,
        flattenDisjuncts_eq_flatMap, List.any_flatMap]
      refine any_congr_of_mem fun operand member => ?_
      rw [any_holds_disjuncts]
      exact inductionHypothesis operand member

end Kept

/-! ## The text of a flattened expression -/

section Text

/-- The texts of the contributions to a conjunction, joined, are the text of the operand. -/
theorem intercalate_writeConjunct_conjuncts (expr : Expr) :
    [' ', 'A', 'N', 'D', ' '].intercalate (expr.conjuncts.map writeConjunct) =
      expr.writeConjunct := by
  cases expr with
  | and operands =>
      rw [conjuncts, ← writeConjuncts_eq_map]
      rfl
  | _ => exact List.append_nil _

/-- The texts of the contributions to a disjunction, joined, are the text of the operand. -/
theorem intercalate_write_disjuncts (expr : Expr) :
    [' ', 'O', 'R', ' '].intercalate (expr.disjuncts.map write) =
      expr.write := by
  cases expr with
  | or operands =>
      rw [disjuncts, ← writeDisjuncts_eq_map]
      rfl
  | _ => exact List.append_nil _

/-- Flattening does not change the canonical text. -/
theorem write_flatten {expr : Expr} :
    expr.WellFormed → expr.flatten.write = expr.write := by
  induction expr using induction with
  | text => exact fun _ => rfl
  | property => exact fun _ => rfl
  | not operand inductionHypothesis =>
      intro wellFormed
      rw [flatten, write, write, signal?_flatten, isCompound_flatten,
        inductionHypothesis wellFormed]
  | and operands inductionHypothesis =>
      intro wellFormed
      have all := (wellFormed_and_iff.mp wellFormed).2
      have same : ∀ operand ∈ operands,
          operand.flatten.writeConjunct = operand.writeConjunct := by
        intro operand member
        rw [writeConjunct, writeConjunct, isOr_flatten,
          inductionHypothesis operand member (all operand member)]
      rw [flatten, write, write, writeConjuncts_eq_map,
        writeConjuncts_eq_map, flattenConjuncts_eq_flatMap,
        List.map_flatMap, intercalate_flatMap]
      · congr 1
        refine List.map_congr_left fun operand member => ?_
        rw [intercalate_writeConjunct_conjuncts, same operand member]
      · intro operand member
        simpa using conjuncts_ne_nil (wellFormed_flatten (all operand member))
  | or operands inductionHypothesis =>
      intro wellFormed
      have all := (wellFormed_or_iff.mp wellFormed).2
      rw [flatten, write, write, writeDisjuncts_eq_map,
        writeDisjuncts_eq_map, flattenDisjuncts_eq_flatMap,
        List.map_flatMap, intercalate_flatMap]
      · congr 1
        refine List.map_congr_left fun operand member => ?_
        rw [intercalate_write_disjuncts]
        exact inductionHypothesis operand member (all operand member)
      · intro operand member
        simpa using disjuncts_ne_nil (wellFormed_flatten (all operand member))

end Text

end Expr

end RecordQuery
