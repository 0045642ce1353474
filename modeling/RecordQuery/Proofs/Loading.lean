import Mathlib.Algebra.Ring.Parity
import RecordQuery.Proofs.Operands
import RecordQuery.Proofs.ParentLinks

/-!
# Loading more records

Whether a record fulfils an expression depends on the loaded records only through ancestor conditions,
and these hold the more often the more records are loaded. So an expression with its ancestor conditions
under even numbers of negations can only gain matches, and one with all of them under odd numbers can
only lose matches.
-/

namespace RecordQuery

/-! ## Parent links of more records -/

section Links

namespace Lineage

open Relation

variable {records : List Record}

theorem lookup?_append {name : String} {record : Record}
    (loaded : (ofRecords records).lookup? name = some record)
    (extra : List Record) :
    (ofRecords (records ++ extra)).lookup? name = some record := by
  rw [lookup?_ofRecords] at loaded ⊢
  rw [List.find?_append, loaded, Option.some_or]

theorem Link.append {name next : String}
    (link : (ofRecords records).Link name next) (extra : List Record) :
    (ofRecords (records ++ extra)).Link name next := by
  obtain ⟨record, parent, loaded, named, equal⟩ := link
  exact ⟨record, parent, lookup?_append loaded extra, named, equal⟩

/-- A record keeps its ancestors when more records are loaded. -/
theorem hasAncestor_append {record : Record} {name : String}
    (found : (ofRecords records).hasAncestor record name = true)
    (extra : List Record) :
    (ofRecords (records ++ extra)).hasAncestor record name = true := by
  rw [hasAncestor_iff_reached_except] at found ⊢
  refine found.imp_right fun ⟨parent, named, reached⟩ => ⟨parent, named, ?_⟩
  exact ReflTransGen.mono
    (fun _ _ link => ⟨link.1, link.2.append extra⟩) _ _ reached

end Lineage

end Links

namespace Expr

/-! ## Negations over ancestor conditions -/

section Negations

mutual

/-- The number of negations over each ancestor condition of an expression. -/
def ancestorNegations : Expr → List Nat
  | text _ _ _ => []
  | property .ancestor _ => [0]
  | property _ _ => []
  | and operands => ancestorNegationsOfList operands
  | or operands => ancestorNegationsOfList operands
  | not operand => operand.ancestorNegations.map (· + 1)

def ancestorNegationsOfList : List Expr → List Nat
  | [] => []
  | operand :: rest =>
      operand.ancestorNegations ++ ancestorNegationsOfList rest

end

theorem ancestorNegationsOfList_eq_flatMap (operands : List Expr) :
    ancestorNegationsOfList operands =
      operands.flatMap ancestorNegations := by
  induction operands with
  | nil => rfl
  | cons operand rest inductionHypothesis =>
      rw [ancestorNegationsOfList, inductionHypothesis, List.flatMap_cons]

variable {operands : List Expr} {operand : Expr} {count : Nat}

theorem mem_ancestorNegationsOfList (member : operand ∈ operands)
    (counted : count ∈ operand.ancestorNegations) :
    count ∈ ancestorNegationsOfList operands := by
  rw [ancestorNegationsOfList_eq_flatMap]
  exact List.mem_flatMap.mpr ⟨operand, member, counted⟩

theorem mem_ancestorNegations_not
    (counted : count ∈ operand.ancestorNegations) :
    count + 1 ∈ (not operand).ancestorNegations :=
  List.mem_map_of_mem counted

end Negations

/-! ## Monotonicity -/

section Monotonicity

variable {lineage lineage' : Option Lineage} {record : Record}

theorem holds_and_iff {operands : List Expr} :
    (and operands).holds lineage record = true ↔
      ∀ operand ∈ operands, operand.holds lineage record = true := by
  rw [holds, allHold_eq_all, List.all_eq_true]

theorem holds_or_iff {operands : List Expr} :
    (or operands).holds lineage record = true ↔
      ∃ operand ∈ operands, operand.holds lineage record = true := by
  rw [holds, anyHolds_eq_any, List.any_eq_true]

theorem holds_not_iff {operand : Expr} :
    (not operand).holds lineage record = true ↔
      ¬ operand.holds lineage record = true := by
  rw [holds, Bool.not_eq_true', Bool.not_eq_true]

theorem holds_ancestor (lineage : Lineage) (name : String) :
    (property .ancestor name).holds (some lineage) record =
      lineage.hasAncestor record name := by
  rw [holds, Record.hasProperty, Option.any_some]

/-- A record that fulfils an expression with one lineage does so with another. -/
def Kept (lineage lineage' : Option Lineage) (record : Record) (expr : Expr) :
    Prop :=
  expr.holds lineage record = true → expr.holds lineage' record = true

/-- Where another lineage keeps the ancestor conditions that hold, it keeps the expressions with even
numbers of negations over these conditions, and the expressions with odd ones are kept the other way. -/
theorem kept_of_parity
    (kept : ∀ name, Kept lineage lineage' record (property .ancestor name))
    (expr : Expr) :
    ((∀ count ∈ expr.ancestorNegations, Even count) →
      Kept lineage lineage' record expr) ∧
    ((∀ count ∈ expr.ancestorNegations, Odd count) →
      Kept lineage' lineage record expr) := by
  -- A negation turns the two halves around, all else keeps them.
  induction expr using induction with
  | text => exact ⟨fun _ => id, fun _ => id⟩
  | property key name =>
      cases key with
      | ancestor =>
          refine ⟨fun _ => kept name, fun odd => ?_⟩
          exact absurd (odd 0 (List.mem_singleton_self 0)) Nat.not_odd_zero
      | _ => exact ⟨fun _ => id, fun _ => id⟩
  | not operand inductionHypothesis =>
      rw [Kept, Kept, holds_not_iff, holds_not_iff]
      constructor
      · intro even
        refine mt (inductionHypothesis.2 fun count counted => ?_)
        have evenAbove := even (count + 1) (mem_ancestorNegations_not counted)
        rwa [Nat.even_add_one, Nat.not_even_iff_odd] at evenAbove
      · intro odd
        refine mt (inductionHypothesis.1 fun count counted => ?_)
        have oddAbove := odd (count + 1) (mem_ancestorNegations_not counted)
        rwa [Nat.odd_add_one, Nat.not_odd_iff_even] at oddAbove
  | and operands inductionHypothesis =>
      rw [Kept, Kept, holds_and_iff, holds_and_iff]
      constructor
      · intro even all operand member
        exact (inductionHypothesis operand member).1
          (fun count counted =>
            even count (mem_ancestorNegationsOfList member counted))
          (all operand member)
      · intro odd all operand member
        exact (inductionHypothesis operand member).2
          (fun count counted =>
            odd count (mem_ancestorNegationsOfList member counted))
          (all operand member)
  | or operands inductionHypothesis =>
      rw [Kept, Kept, holds_or_iff, holds_or_iff]
      constructor
      · rintro even ⟨operand, member, one⟩
        exact ⟨operand, member, (inductionHypothesis operand member).1
          (fun count counted =>
            even count (mem_ancestorNegationsOfList member counted)) one⟩
      · rintro odd ⟨operand, member, one⟩
        exact ⟨operand, member, (inductionHypothesis operand member).2
          (fun count counted =>
            odd count (mem_ancestorNegationsOfList member counted)) one⟩

theorem kept_ancestor_of_none (lineage : Option Lineage) (record : Record)
    (name : String) : Kept none lineage record (property .ancestor name) :=
  fun found => nomatch found

theorem kept_ancestor_append (records extra : List Record) (record : Record)
    (name : String) :
    Kept (some (.ofRecords records)) (some (.ofRecords (records ++ extra)))
      record (property .ancestor name) := by
  rw [Kept, holds_ancestor, holds_ancestor]
  exact fun found => Lineage.hasAncestor_append found extra

/-- Loading records, and loading more of them, can only add matches where all ancestor conditions are
under even numbers of negations, can only take matches away where all are under odd numbers, and makes no
difference where there are none. -/
theorem holds_of_more_loaded (expr : Expr) (record : Record)
    (records extra : List Record) :
    ((∀ count ∈ expr.ancestorNegations, Even count) →
      (expr.holds none record = true →
        expr.holds (some (.ofRecords records)) record = true) ∧
      (expr.holds (some (.ofRecords records)) record = true →
        expr.holds (some (.ofRecords (records ++ extra))) record = true)) ∧
    ((∀ count ∈ expr.ancestorNegations, Odd count) →
      (expr.holds (some (.ofRecords (records ++ extra))) record = true →
        expr.holds (some (.ofRecords records)) record = true) ∧
      (expr.holds (some (.ofRecords records)) record = true →
        expr.holds none record = true)) ∧
    (expr.ancestorNegations = [] → ∀ lineage : Option Lineage,
      expr.holds lineage record = expr.holds none record) := by
  have loading (lineage : Option Lineage) :=
    kept_of_parity (kept_ancestor_of_none lineage record) expr
  have adding := kept_of_parity (kept_ancestor_append records extra record) expr
  refine ⟨fun even => ⟨(loading _).1 even, adding.1 even⟩,
    fun odd => ⟨adding.2 odd, (loading _).2 odd⟩, fun none lineage => ?_⟩
  refine Bool.eq_iff_iff.mpr ⟨(loading lineage).2 ?_, (loading lineage).1 ?_⟩
  · simp [none]
  · simp [none]

theorem holds_of_more_loaded_root :
    (∀ count ∈ (and [property .ancestor "root",
      not (not (property .ancestor "base"))]).ancestorNegations, Even count) ∧
    (and [property .ancestor "root", not (not (property .ancestor "base"))]).holds
      (some (.ofRecords ([Lineage.linked "base" (some "root")] ++
        [Lineage.linked "root" (some "leaf")])))
      (Lineage.linked "leaf" (some "Base")) = true ∧
    (∀ count ∈ (not (property .ancestor "root")).ancestorNegations,
      Odd count) ∧
    (not (property .ancestor "root")).holds none
      (Lineage.linked "other" none) = true ∧
    (not (property .name "leaf")).ancestorNegations = [] ∧
    ∀ lineage, (not (property .name "leaf")).holds lineage
      (Lineage.linked "leaf" (some "Base")) = false := by
  have even : ∀ count ∈ (and [property .ancestor "root",
      not (not (property .ancestor "base"))]).ancestorNegations,
      Even count := by
    decide
  have odd : ∀ count ∈ (not (property .ancestor "root")).ancestorNegations,
      Odd count := by
    decide
  have none : (not (property .name "leaf")).ancestorNegations = [] := rfl
  refine ⟨even, ?_, odd, ?_, none, fun lineage => ?_⟩
  · exact ((holds_of_more_loaded _ _ _ _).1 even).2 (by decide +kernel)
  · exact ((holds_of_more_loaded _ _ [Lineage.linked "base" (some "root")]
      []).2.1 odd).2 (by decide +kernel)
  · exact ((holds_of_more_loaded _ _ [] []).2.2 none lineage).trans
      (by decide +kernel)

end Monotonicity

end Expr

end RecordQuery
