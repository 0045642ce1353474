import RecordQuery.Proofs.ParentLinks

/-!
# Inherited ancestors

What is reached from the parent of a record is reached from the record, and the walk finds it. Only where
the parent links come back to the name of the record, and this name is looked up as another record with
another parent, does the walk stop before it has met everything.
-/

namespace RecordQuery.Lineage

open Relation

section Inherited

variable {records : List Record} {record ancestor : Record} {parent : String}

/-- What the links lead to is met before they come back to one of the names, or they do come back to
it. -/
theorem reached_except_or_returns {lineage : Lineage}
    {own first target : String}
    (reached : ReflTransGen lineage.Link first target) :
    ReflTransGen (lineage.LinkExcept own) first target ∨
      ReflTransGen (lineage.LinkExcept own) first own := by
  induction reached with
  | refl => exact Or.inl .refl
  | @tail name next _ link inductionHypothesis =>
      rcases inductionHypothesis with before | returned
      · by_cases isOwn : name = own
        · exact Or.inr (isOwn ▸ before)
        · exact Or.inl (before.tail ⟨isOwn, link⟩)
      · exact Or.inr returned

/-- The record found under a name has the ancestors that are reached from the name. -/
theorem hasAncestor_iff_reached_of_find?
    (loaded : (ofRecords records).find? parent = some ancestor)
    (target : String) :
    (ofRecords records).hasAncestor ancestor target = true ↔
      ReflTransGen (ofRecords records).Link
        (Text.lower parent) (Text.lower target) := by
  have sameName : Text.lower ancestor.name = Text.lower parent :=
    lower_name_of_lookup? loaded
  have found : (ofRecords records).find? ancestor.name = some ancestor := by
    rw [find?, sameName]
    exact loaded
  rw [hasAncestor_iff_of_own_link fun next => own_link_of_find? found,
    isAncestor_iff_reached, sameName]
  constructor
  · rintro (equal | ⟨name, named, further⟩)
    · rw [equal]
    · exact .head ((link_iff loaded).mpr ⟨name, named, rfl⟩) further
  · intro reached
    rcases reached.cases_head with equal | ⟨next, link, further⟩
    · exact Or.inl equal.symm
    · obtain ⟨name, named, rfl⟩ := (link_iff loaded).mp link
      exact Or.inr ⟨name, named, further⟩

/-- Where something is reached only by way of the name of a record, this name is looked up as a record
with another parent. -/
theorem exists_other_of_not_reached_except {target : String}
    (named : record.parent = some parent)
    (reached : ReflTransGen (ofRecords records).Link
      (Text.lower parent) target)
    (notBefore : ¬ ReflTransGen
      ((ofRecords records).LinkExcept (Text.lower record.name))
      (Text.lower parent) target) :
    ∃ other, (ofRecords records).find? record.name = some other ∧
      other.parent.map Text.lower ≠ record.parent.map Text.lower := by
  cases found : (ofRecords records).find? record.name with
  | none =>
      refine absurd ((reached_except_iff fun next link => ?_).mpr reached)
        notBefore
      exact absurd link (not_link_of_unloaded found)
  | some other =>
      refine ⟨other, rfl, fun sameParent => notBefore ?_⟩
      refine (reached_except_iff fun next link => ?_).mpr reached
      obtain ⟨name, otherNamed, rfl⟩ := (link_iff found).mp link
      rw [otherNamed, named] at sameParent
      exact Option.some.inj sameParent

/-- A record has the ancestors of its loaded parent, unless its name is looked up as a record with another
parent, is itself that of an ancestor of the parent, and has to be passed on the way from the parent to
the ancestor in question. -/
theorem hasAncestor_of_parent {target : String}
    (named : record.parent = some parent)
    (loaded : (ofRecords records).find? parent = some ancestor)
    (inherited : (ofRecords records).hasAncestor ancestor target = true) :
    (ofRecords records).hasAncestor record target = true ∨
      ∃ other, (ofRecords records).find? record.name = some other ∧
        other.parent.map Text.lower ≠ record.parent.map Text.lower ∧
        (ofRecords records).hasAncestor ancestor record.name = true ∧
        ¬ ReflTransGen
          ((ofRecords records).LinkExcept (Text.lower record.name))
          (Text.lower parent) (Text.lower target) := by
  have reached :=
    (hasAncestor_iff_reached_of_find? loaded target).mp inherited
  by_cases before : ReflTransGen
      ((ofRecords records).LinkExcept (Text.lower record.name))
      (Text.lower parent) (Text.lower target)
  · exact Or.inl <| hasAncestor_iff_reached_except.mpr <|
      Or.inr ⟨parent, named, before⟩
  · obtain ⟨other, found, otherParent⟩ :=
      exists_other_of_not_reached_except named reached before
    have returned :=
      (reached_except_or_returns reached).resolve_left before
    have returns :=
      (hasAncestor_iff_reached_of_find? loaded record.name).mpr
        (reached_of_reached_except returned)
    exact Or.inr ⟨other, found, otherParent, returns, before⟩

theorem hasAncestor_of_parent_circle :
    (linked "c" (some "A")).parent = some "A" ∧
    (ofRecords circle).find? "A" = some (linked "a" (some "B")) ∧
    (ofRecords circle).hasAncestor (linked "a" (some "B")) "b" = true ∧
    (ofRecords circle).hasAncestor (linked "c" (some "A")) "b" = true := by
  have loaded : (ofRecords circle).find? "A" = some (linked "a" (some "B")) :=
    rfl
  have inherited : (ofRecords circle).hasAncestor
      (linked "a" (some "B")) "b" = true := by
    decide +kernel
  have named : (linked "c" (some "A")).parent = some "A" := rfl
  refine ⟨named, loaded, inherited, ?_⟩
  rcases hasAncestor_of_parent named loaded inherited with
    found | ⟨other, found, otherParent, _⟩
  · exact found
  · have itself : (ofRecords circle).find? (linked "c" (some "A")).name =
        some (linked "c" (some "A")) := rfl
    rw [itself] at found
    cases found
    exact absurd rfl otherParent

/-- A record that another one of its name hides can lack an ancestor of its parent. -/
theorem not_inherited_when_hidden :
    ¬ ∀ (records : List Record) (record ancestor : Record)
        (parent target : String),
      record ∈ records → record.parent = some parent →
        (ofRecords records).find? parent = some ancestor →
        (ofRecords records).hasAncestor ancestor target = true →
        (ofRecords records).hasAncestor record target = true := by
  intro inherited
  have found := inherited
    [linked "a" (some "c"), linked "a" (some "b"), linked "b" (some "a")]
    (linked "a" (some "b")) (linked "b" (some "a")) "b" "c"
    (by decide) rfl rfl (by decide +kernel)
  revert found
  decide +kernel

end Inherited

end RecordQuery.Lineage
