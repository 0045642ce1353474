import Mathlib.Logic.Relation
import RecordQuery.Record.Ancestry

/-!
# Walks along parent links

The walk from a record on stops at the first name that it has passed before. Every name has at most one
parent link, so nothing new lies behind such a name: the walk meets whatever the links lead to, except
for what only the link of the record's own name leads to. This link is the record's own if its name is
looked up as the record itself.
-/

namespace RecordQuery.Lineage

open Relation

/-! ## Closed rows of names -/

section Reached

variable {alpha : Type} {link : alpha → alpha → Prop} {first target : alpha}

theorem mem_of_reached {passed : List alpha}
    (closed : ∀ name ∈ passed, ∀ next, link name next → next ∈ passed)
    (start : first ∈ passed) (reached : ReflTransGen link first target) :
    target ∈ passed := by
  induction reached with
  | refl => exact start
  | tail _ step inductionHypothesis =>
      exact closed _ inductionHypothesis _ step

theorem not_reached_of_no_link (noLink : ∀ next, ¬ link first next)
    (different : first ≠ target) : ¬ ReflTransGen link first target := by
  intro reached
  rcases reached.cases_head with equal | ⟨next, step, _⟩
  · exact different equal
  · exact noLink next step

theorem reached_iff_of_only_link {next : alpha} (step : link first next)
    (only : ∀ other, link first other → other = next)
    (different : first ≠ target) :
    ReflTransGen link first target ↔ ReflTransGen link next target := by
  constructor
  · intro reached
    rcases reached.cases_head with equal | ⟨other, otherStep, further⟩
    · exact absurd equal different
    · rw [only other otherStep] at further
      exact further
  · exact .head step

end Reached

/-! ## Parent links -/

section Links

/-- The parent link of a lowercase name, that of the first record of this name. -/
def Link (lineage : Lineage) (name next : String) : Prop :=
  ∃ record parent, lineage.lookup? name = some record ∧
    record.parent = some parent ∧ Text.lower parent = next

/-- The parent links of all names but one. -/
def LinkExcept (lineage : Lineage) (own name next : String) : Prop :=
  name ≠ own ∧ lineage.Link name next

variable {lineage : Lineage} {own name next target : String} {record : Record}

theorem not_link_of_unloaded (unloaded : lineage.lookup? name = none) :
    ¬ lineage.Link name next := by
  rintro ⟨record, parent, loaded, _⟩
  rw [unloaded] at loaded
  cases loaded

theorem link_iff (loaded : lineage.lookup? name = some record) :
    lineage.Link name next ↔
      ∃ parent, record.parent = some parent ∧ Text.lower parent = next := by
  constructor
  · rintro ⟨found, parent, foundLoaded, named, equal⟩
    rw [loaded] at foundLoaded
    cases foundLoaded
    exact ⟨parent, named, equal⟩
  · rintro ⟨parent, named, equal⟩
    exact ⟨record, parent, loaded, named, equal⟩

theorem eq_of_link {parent : String}
    (loaded : lineage.lookup? name = some record)
    (named : record.parent = some parent) (link : lineage.Link name next) :
    next = Text.lower parent := by
  obtain ⟨other, otherNamed, rfl⟩ := (link_iff loaded).mp link
  rw [named] at otherNamed
  cases otherNamed
  rfl

theorem reached_of_reached_except {first : String}
    (reached : ReflTransGen (lineage.LinkExcept own) first target) :
    ReflTransGen lineage.Link first target :=
  ReflTransGen.mono (fun _ _ link => link.2) first target reached

/-- Where the link of a name leads to the place from which the links are followed, it can be left
out. -/
theorem reached_except_iff {first : String}
    (back : ∀ next, lineage.Link own next → next = first) :
    ReflTransGen (lineage.LinkExcept own) first target ↔
      ReflTransGen lineage.Link first target := by
  constructor
  · exact reached_of_reached_except
  · intro reached
    induction reached with
    | refl => exact .refl
    | @tail name next _ step inductionHypothesis =>
        by_cases isOwn : name = own
        · rw [isOwn] at step
          rw [back next step]
        · exact inductionHypothesis.tail ⟨isOwn, step⟩

end Links

/-! ## The walk -/

section Walk

variable {lineage : Lineage} {own target : String}

/-- A walk that has passed the name of the record where it began meets just what the links of the other
names lead to. -/
theorem walkMeets_iff {visited : List String} {next : String}
    (passed : own ∈ visited) (unmet : target ∉ visited)
    (closed : ∀ name ∈ visited, ∀ following,
      lineage.LinkExcept own name following →
        following ∈ visited ∨ following = Text.lower next) :
    lineage.walkMeets target visited next = true ↔
      ReflTransGen (lineage.LinkExcept own) (Text.lower next) target := by
  -- Along the walk, the links of visited names lead to visited names or to the name that is next. So
  -- where the next name is a visited one, these names are closed under links and hide no target.
  fun_induction walkMeets lineage target visited next with
  | case1 visited next key equal =>
      obtain rfl := beq_iff_eq.mp equal
      exact iff_of_true rfl .refl
  | case2 visited next key different seen =>
      have member : key ∈ visited := List.contains_iff_mem.mp seen
      refine iff_of_false Bool.false_ne_true fun reached => unmet ?_
      refine mem_of_reached (fun name nameMember following link => ?_)
        member reached
      rcases closed name nameMember following link with visited | equal
      · exact visited
      · exact equal ▸ member
  | case3 visited next key different new unloaded =>
      have keyNotTarget : key ≠ target := mt beq_iff_eq.mpr different
      refine iff_of_false Bool.false_ne_true
        (not_reached_of_no_link (fun following link => ?_) keyNotTarget)
      exact not_link_of_unloaded unloaded link.2
  | case4 visited next key different new record loaded orphan =>
      have keyNotTarget : key ≠ target := mt beq_iff_eq.mpr different
      refine iff_of_false Bool.false_ne_true
        (not_reached_of_no_link (fun following link => ?_) keyNotTarget)
      obtain ⟨parent, named, _⟩ := (link_iff loaded).mp link.2
      rw [orphan] at named
      cases named
  | case5 visited next key different new record loaded parent named _ inductionHypothesis =>
      have keyNotTarget : key ≠ target := mt beq_iff_eq.mpr different
      have keyNew : key ∉ visited := mt List.contains_iff_mem.mpr new
      have keyNotOwn : key ≠ own := fun equal => keyNew (equal ▸ passed)
      have step : lineage.LinkExcept own key (Text.lower parent) :=
        ⟨keyNotOwn, (link_iff loaded).mpr ⟨parent, named, rfl⟩⟩
      have only : ∀ following, lineage.LinkExcept own key following →
          following = Text.lower parent := fun following link =>
        eq_of_link loaded named link.2
      rw [reached_iff_of_only_link step only keyNotTarget]
      refine inductionHypothesis (List.mem_cons_of_mem key passed) ?_ ?_
      · simp [keyNotTarget.symm, unmet]
      · intro name member following link
        rcases List.mem_cons.mp member with rfl | visitedBefore
        · exact Or.inr (only following link)
        · rcases closed name visitedBefore following link with
            visited | equal
          · exact Or.inl (List.mem_cons_of_mem key visited)
          · exact Or.inl (equal ▸ List.mem_cons_self)

/-- A record has the ancestors that are reached from its parent without the link of its own name. -/
theorem hasAncestor_iff_reached_except {record : Record} {name : String} :
    lineage.hasAncestor record name = true ↔
      Text.lower name = Text.lower record.name ∨
      ∃ parent, record.parent = some parent ∧
        ReflTransGen (lineage.LinkExcept (Text.lower record.name))
          (Text.lower parent) (Text.lower name) := by
  unfold hasAncestor
  dsimp only
  split
  · next equal =>
      exact iff_of_true rfl (Or.inl (beq_iff_eq.mp equal).symm)
  · next different =>
      have targetNotOwn : Text.lower name ≠ Text.lower record.name := fun equal =>
        different (beq_iff_eq.mpr equal.symm)
      rw [or_iff_right targetNotOwn]
      split
      · next orphan => simp [orphan]
      · next parent named =>
          rw [walkMeets_iff (List.mem_singleton_self _)
            (by simpa using targetNotOwn)]
          · simp [named]
          · intro passed member following link
            exact absurd (List.mem_singleton.mp member) link.1

end Walk

/-! ## The length of walks -/

section Length

/-- The walk of `walkMeets`, given up after a number of parent names. -/
def walkWithin (lineage : Lineage) (target : String) :
    (steps : Nat) → (visited : List String) → (next : String) → Option Bool
  | 0, _, _ => none
  | steps + 1, visited, next =>
      let key := Text.lower next
      if key == target then some true
      else if visited.contains key then some false
      else
        match (lineage.lookup? key).bind Record.parent with
        | none => some false
        | some parent => lineage.walkWithin target steps (key :: visited) parent

/-- The search of `hasAncestor`, given up after a number of parent names. -/
def hasAncestorWithin (lineage : Lineage) (steps : Nat) (record : Record)
    (target : String) : Option Bool :=
  let own := Text.lower record.name
  let sought := Text.lower target
  if own == sought then some true
  else
    match record.parent with
    | none => some false
    | some parent => lineage.walkWithin sought steps [own] parent

variable {lineage : Lineage}

/-- A walk ends after one name more than there are unvisited records. -/
theorem walkWithin_of_unvisited_le {target next : String}
    {visited : List String} :
    ∀ {steps : Nat}, lineage.unvisited visited ≤ steps →
      lineage.walkWithin target (steps + 1) visited next =
        some (lineage.walkMeets target visited next) := by
  fun_induction walkMeets lineage target visited next
  case case1 equal =>
    intro steps _
    rw [walkWithin]
    exact if_pos equal
  case case2 different seen =>
    intro steps _
    rw [walkWithin]
    exact (if_neg different).trans (if_pos seen)
  case case3 different new unloaded =>
    intro steps _
    rw [walkWithin]
    refine (if_neg different).trans ((if_neg new).trans ?_)
    rw [unloaded]
    rfl
  case case4 different new record loaded orphan =>
    intro steps _
    rw [walkWithin]
    refine (if_neg different).trans ((if_neg new).trans ?_)
    rw [loaded, Option.bind_some, orphan]
  case case5 different new record loaded parent named fewer
      inductionHypothesis =>
    intro steps enough
    obtain ⟨remaining, rfl⟩ : ∃ remaining, steps = remaining + 1 :=
      ⟨steps - 1, by omega⟩
    rw [walkWithin]
    refine (if_neg different).trans ((if_neg new).trans ?_)
    rw [loaded, Option.bind_some, named]
    exact inductionHypothesis (by omega)

theorem hasAncestorWithin_of_length_le {steps : Nat}
    (enough : lineage.entries.length ≤ steps) (record : Record)
    (target : String) :
    lineage.hasAncestorWithin (steps + 1) record target =
      some (lineage.hasAncestor record target) := by
  unfold hasAncestorWithin hasAncestor
  dsimp only
  split
  · rfl
  · cases record.parent with
    | none => rfl
    | some parent =>
        exact walkWithin_of_unvisited_le
          (Nat.le_trans (List.length_filter_le _ _) enough)

end Length

/-! ## Ancestors of loaded records -/

section Loaded

theorem isAncestor_iff_reached {lineage : Lineage} {record : Record}
    {key : String} :
    lineage.IsAncestor record key ↔
      ∃ parent, record.parent = some parent ∧
        ReflTransGen lineage.Link (Text.lower parent) key := by
  constructor
  · intro ancestor
    induction ancestor with
    | parent named => exact ⟨_, named, .refl⟩
    | further _ loaded named inductionHypothesis =>
        obtain ⟨parent, first, reached⟩ := inductionHypothesis
        exact ⟨parent, first, reached.tail ⟨_, _, loaded, named, rfl⟩⟩
  · rintro ⟨parent, first, reached⟩
    induction reached with
    | refl => exact .parent first
    | tail _ link inductionHypothesis =>
        obtain ⟨ancestor, name, loaded, named, rfl⟩ := link
        exact .further inductionHypothesis loaded named

/-- Nothing is found to be an ancestor but the record's own name and those of its ancestors. -/
theorem eq_or_isAncestor_of_hasAncestor {lineage : Lineage} {record : Record}
    {target : String} (found : lineage.hasAncestor record target = true) :
    Text.lower target = Text.lower record.name ∨
      lineage.IsAncestor record (Text.lower target) := by
  refine (hasAncestor_iff_reached_except.mp found).imp_right ?_
  rintro ⟨parent, named, reached⟩
  exact isAncestor_iff_reached.mpr
    ⟨parent, named, reached_of_reached_except reached⟩

/-- All ancestors of a record are found if its name has no parent link but the record's own. -/
theorem hasAncestor_iff_of_own_link {lineage : Lineage} {record : Record}
    (own : ∀ next, lineage.Link (Text.lower record.name) next →
      record.parent.map Text.lower = some next) (target : String) :
    lineage.hasAncestor record target = true ↔
      Text.lower target = Text.lower record.name ∨
        lineage.IsAncestor record (Text.lower target) := by
  rw [hasAncestor_iff_reached_except, isAncestor_iff_reached]
  refine or_congr_right <| exists_congr fun parent =>
    and_congr_right fun named => reached_except_iff fun next link => ?_
  have same := own next link
  rw [named] at same
  exact (Option.some.inj same).symm

theorem lookup?_ofRecords (records : List Record) (key : String) :
    (ofRecords records).lookup? key =
      records.find? fun record => Text.lower record.name == key := by
  rw [lookup?, ofRecords, List.find?_map, Option.map_map]
  exact Option.map_id'

theorem lower_name_of_lookup? {records : List Record} {key : String}
    {record : Record}
    (loaded : (ofRecords records).lookup? key = some record) :
    Text.lower record.name = key := by
  rw [lookup?_ofRecords] at loaded
  simpa using List.find?_some loaded

theorem not_link_of_absent {records : List Record} {name next : String}
    (absent : ∀ record ∈ records, Text.lower record.name ≠ name) :
    ¬ (ofRecords records).Link name next := by
  refine not_link_of_unloaded ?_
  rw [lookup?_ofRecords, List.find?_eq_none]
  intro record member equal
  exact absent record member (beq_iff_eq.mp equal)

theorem own_link_of_find? {lineage : Lineage} {record : Record} {next : String}
    (found : lineage.find? record.name = some record)
    (link : lineage.Link (Text.lower record.name) next) :
    record.parent.map Text.lower = some next := by
  obtain ⟨parent, named, rfl⟩ := (link_iff found).mp link
  rw [named]
  rfl

/-- A record that is not loaded, or is found under its own name, has just the ancestors that are reached
by one or more parent links, each that of the first record of its name. No more parent names are looked
at than there are records, and one. -/
theorem hasAncestor_iff_isAncestor {records : List Record} {record : Record}
    (own : (∀ other ∈ records,
        Text.lower other.name ≠ Text.lower record.name) ∨
      (ofRecords records).find? record.name = some record)
    (target : String) :
    (∀ key, (ofRecords records).lookup? key =
      records.find? fun other => Text.lower other.name == key) ∧
    ((ofRecords records).hasAncestor record target = true ↔
      Text.lower target = Text.lower record.name ∨
        (ofRecords records).IsAncestor record (Text.lower target)) ∧
    (ofRecords records).hasAncestorWithin (records.length + 1) record target =
      some ((ofRecords records).hasAncestor record target) := by
  refine ⟨lookup?_ofRecords records,
    hasAncestor_iff_of_own_link (fun next link => ?_) target, ?_⟩
  · rcases own with absent | found
    · exact absurd link (not_link_of_absent absent)
    · exact own_link_of_find? found link
  · refine hasAncestorWithin_of_length_le (Nat.le_of_eq ?_) record target
    exact List.length_map _

/-- A record of which only the name and the parent matter. -/
def linked (name : String) (parent : Option String) : Record :=
  { name, status := "Drafted", parent, filePath := "" }

/-- Three records in a circle, and one that the first of them hides. -/
def circle : List Record :=
  [linked "a" (some "B"), linked "b" (some "c"), linked "A" (some "x"),
    linked "c" (some "A")]

theorem hasAncestor_iff_isAncestor_circle :
    (ofRecords circle).find? (linked "a" (some "B")).name =
      some (linked "a" (some "B")) ∧
    (ofRecords circle).IsAncestor (linked "a" (some "B")) (Text.lower "C") ∧
    ¬ (ofRecords circle).IsAncestor (linked "a" (some "B")) (Text.lower "x") ∧
    (∀ other ∈ circle,
      Text.lower other.name ≠ Text.lower (linked "leaf" (some "A")).name) ∧
    (ofRecords circle).IsAncestor (linked "leaf" (some "A")) (Text.lower "C") ∧
    (ofRecords circle).hasAncestorWithin 5 (linked "leaf" (some "A")) "x" =
      some false := by
  have found : (ofRecords circle).find? (linked "a" (some "B")).name =
      some (linked "a" (some "B")) := rfl
  have absent : ∀ other ∈ circle, Text.lower other.name ≠
      Text.lower (linked "leaf" (some "A")).name := by
    decide
  have first := hasAncestor_iff_isAncestor (Or.inr found)
  have leaf := hasAncestor_iff_isAncestor (Or.inl absent)
  refine ⟨found, ?_, ?_, absent, ?_, ?_⟩
  · have met := (first "C").2.1.mp (by decide +kernel)
    exact met.resolve_left (by decide)
  · intro ancestor
    have met := (first "x").2.1.mpr (Or.inr ancestor)
    revert met
    decide +kernel
  · have met := (leaf "C").2.1.mp (by decide +kernel)
    exact met.resolve_left (by decide)
  · exact (leaf "x").2.2.trans (by decide +kernel)

end Loaded

end RecordQuery.Lineage
