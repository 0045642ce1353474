import RecordQuery.Record.Basic
import RecordQuery.Text.Lowercase

/-!
# Lineage

All loaded records, found by name without regard to case; of several records with one name the first
counts. Each record names at most one parent, and the ancestors of a record are found by following
these links. The links may run in a circle; a walk along them stops when it comes to a name for the
second time.
-/

namespace RecordQuery

/-- Loaded records, each under the lowercase form of its name. -/
structure Lineage where
  entries : List (String × Record)

namespace Lineage

def ofRecords (records : List Record) : Lineage :=
  ⟨records.map fun record => (Text.lower record.name, record)⟩

/-- The first record under a lowercase name. -/
def lookup? (lineage : Lineage) (key : String) : Option Record :=
  (lineage.entries.find? fun entry => entry.1 == key).map Prod.snd

/-- The first record of a name, in any case. -/
def find? (lineage : Lineage) (name : String) : Option Record :=
  lineage.lookup? (Text.lower name)

/-- The number of records under names that have not been visited. -/
def unvisited (lineage : Lineage) (visited : List String) : Nat :=
  (lineage.entries.filter fun entry => !visited.contains entry.1).length

theorem unvisited_cons_lt {lineage : Lineage} {visited : List String} {key : String}
    {record : Record} (found : lineage.lookup? key = some record)
    (new : ¬ visited.contains key = true) :
    lineage.unvisited (key :: visited) < lineage.unvisited visited := by
  obtain ⟨entry, entryFound, rfl⟩ := Option.map_eq_some_iff.1 found
  have member : entry ∈ lineage.entries := List.mem_of_find?_eq_some entryFound
  have named : entry.1 = key := by simpa using List.find?_some entryFound
  unfold unvisited
  have narrower : (lineage.entries.filter fun entry => !(key :: visited).contains entry.1) =
      (lineage.entries.filter fun entry => !visited.contains entry.1).filter
        fun entry => !(entry.1 == key) := by
    rw [List.filter_filter]
    congr 1
    funext other
    rw [List.contains_cons, Bool.not_or]
  rw [narrower]
  refine List.length_filter_lt_length_iff_exists.2 ⟨entry, ?_, by simp [named]⟩
  rw [List.mem_filter]
  exact ⟨member, by simpa [named] using new⟩

/-- Whether the walk along parent links from the name `next` on meets the lowercase name `target`, when
the lowercase names `visited` have been passed. -/
def walkMeets (lineage : Lineage) (target : String) (visited : List String) (next : String) : Bool :=
  let key := Text.lower next
  if key == target then true
  else if seen : visited.contains key = true then false
  else
    match found : lineage.lookup? key with
    | none => false
    | some record =>
        match record.parent with
        | none => false
        | some parent =>
            have _fewer := unvisited_cons_lt found seen
            lineage.walkMeets target (key :: visited) parent
termination_by lineage.unvisited visited
decreasing_by assumption

/-- Whether `target` names the record itself or one of its ancestors, in any case. -/
def hasAncestor (lineage : Lineage) (record : Record) (target : String) : Bool :=
  let own := Text.lower record.name
  let sought := Text.lower target
  if own == sought then true
  else
    match record.parent with
    | none => false
    | some parent => lineage.walkMeets sought [own] parent

end Lineage

end RecordQuery
