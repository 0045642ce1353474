import Mathlib.Data.List.Nodup
import RecordQuery.Proofs.Flattening
import RecordQuery.Proofs.ParentLinks

/-!
# The order of loaded records

Of several records with one name the first counts, so in general the order in which records are loaded
matters. Where no two of them share a name, in any case, it does not: every name is looked up as the same
record, the parent links are the same, and so is what they lead to.
-/

namespace RecordQuery

/-! ## Looking up by a key -/

section Keys

variable {alpha beta : Type} [DecidableEq beta] {items others : List alpha}
  {key : alpha → beta}

/-- Where no two items share a key, an item is found under its key. -/
theorem find?_key_eq_some_iff (unique : (items.map key).Nodup) {sought : beta}
    {item : alpha} :
    items.find? (fun item => key item == sought) = some item ↔
      item ∈ items ∧ key item = sought := by
  constructor
  · intro found
    have named := List.find?_some found
    exact ⟨List.mem_of_find?_eq_some found, beq_iff_eq.mp named⟩
  · rintro ⟨member, named⟩
    cases found : items.find? (fun item => key item == sought) with
    | none =>
        have unnamed := List.find?_eq_none.mp found item member
        exact absurd (beq_iff_eq.mpr named) unnamed
    | some first =>
        have firstMember := List.mem_of_find?_eq_some found
        have firstNamed := List.find?_some found
        have same : key first = key item :=
          (beq_iff_eq.mp firstNamed).trans named.symm
        rw [List.inj_on_of_nodup_map unique firstMember member same]

theorem find?_key_eq_of_perm (unique : (items.map key).Nodup)
    (reordered : others.Perm items) (sought : beta) :
    others.find? (fun item => key item == sought) =
      items.find? (fun item => key item == sought) := by
  have uniqueOthers : (others.map key).Nodup :=
    ((reordered.map key).nodup_iff).mpr unique
  apply Option.ext
  intro item
  rw [find?_key_eq_some_iff uniqueOthers, find?_key_eq_some_iff unique,
    reordered.mem_iff]

end Keys

/-! ## Lineages that look up the same records -/

namespace Lineage

section SameRecords

variable {lineage lineage' : Lineage}

/-- The ancestors of a record depend on what is looked up under each name, and on nothing else. -/
theorem hasAncestor_congr
    (same : ∀ key, lineage.lookup? key = lineage'.lookup? key)
    (record : Record) (name : String) :
    lineage.hasAncestor record name = lineage'.hasAncestor record name := by
  have sameLinks : lineage.LinkExcept = lineage'.LinkExcept := by
    funext own first next
    rw [LinkExcept, LinkExcept, Link, Link, same]
  apply Bool.eq_iff_iff.mpr
  rw [hasAncestor_iff_reached_except, hasAncestor_iff_reached_except,
    sameLinks]

theorem lookup?_of_reordered {records others : List Record}
    (unique : (records.map fun record => Text.lower record.name).Nodup)
    (reordered : others.Perm records) (key : String) :
    (ofRecords others).lookup? key = (ofRecords records).lookup? key := by
  rw [lookup?_ofRecords, lookup?_ofRecords]
  exact find?_key_eq_of_perm unique reordered key

end SameRecords

end Lineage

namespace Expr

section SameRecords

variable {lineage lineage' : Lineage} {record : Record}

/-- Whether a record fulfils an expression depends on the loaded records through its ancestors only. -/
theorem holds_congr
    (same : ∀ name, lineage.hasAncestor record name =
      lineage'.hasAncestor record name)
    (expr : Expr) :
    expr.holds (some lineage) record = expr.holds (some lineage') record := by
  induction expr using induction with
  | text => simp only [holds]
  | property key value =>
      rw [holds, holds]
      cases key with
      | ancestor => simpa [Record.hasProperty] using same value
      | _ => rfl
  | and operands inductionHypothesis =>
      rw [holds, holds, allHold_eq_all, allHold_eq_all]
      exact all_congr_of_mem inductionHypothesis
  | or operands inductionHypothesis =>
      rw [holds, holds, anyHolds_eq_any, anyHolds_eq_any]
      exact any_congr_of_mem inductionHypothesis
  | not operand inductionHypothesis =>
      rw [holds, holds, inductionHypothesis]

/-- Where no two loaded records share a name, in any case, their order makes no difference to what a
record fulfils, and none but in the order to what is selected from them. -/
theorem holds_of_reordered {records others : List Record}
    (unique : (records.map fun record => Text.lower record.name).Nodup)
    (reordered : others.Perm records) (expr : Expr) :
    (∀ record, expr.holds (some (.ofRecords others)) record =
      expr.holds (some (.ofRecords records)) record) ∧
    (expr.select (some (.ofRecords others)) others).Perm
      (expr.select (some (.ofRecords records)) records) := by
  have sameHolds (record : Record) :
      expr.holds (some (.ofRecords others)) record =
        expr.holds (some (.ofRecords records)) record := by
    apply holds_congr
    apply Lineage.hasAncestor_congr
    exact Lineage.lookup?_of_reordered unique reordered
  refine ⟨sameHolds, ?_⟩
  simp only [select, sameHolds]
  exact reordered.filter _

/-- A record, its parent, and the parent of this one. -/
def descent : List Record :=
  [Lineage.linked "leaf" (some "Mid"), Lineage.linked "mid" (some "root"),
    Lineage.linked "Root" none]

theorem holds_of_reordered_descent :
    (descent.map fun record => Text.lower record.name).Nodup ∧
    descent.reverse.Perm descent ∧
    (property .ancestor "ROOT").holds (some (.ofRecords descent.reverse))
      (Lineage.linked "leaf" (some "Mid")) = true ∧
    ((property .ancestor "ROOT").select (some (.ofRecords descent.reverse))
      descent.reverse).Perm descent := by
  have unique : (descent.map fun record => Text.lower record.name).Nodup := by
    decide +kernel
  have reordered := List.reverse_perm descent
  have all : (property .ancestor "ROOT").select (some (.ofRecords descent))
      descent = descent := by
    decide +kernel
  obtain ⟨sameHolds, sameSelected⟩ :=
    holds_of_reordered unique reordered (property .ancestor "ROOT")
  rw [all] at sameSelected
  refine ⟨unique, reordered, ?_, sameSelected⟩
  rw [sameHolds]
  decide +kernel

end SameRecords

end Expr

end RecordQuery
