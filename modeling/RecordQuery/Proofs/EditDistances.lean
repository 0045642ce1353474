import Mathlib.Order.Bounds.Basic
import Mathlib.Order.Lattice
import RecordQuery.Text.EditDistance

/-!
# Edit distances

What the table of distances holds: in the cell of two prefixes stands the least number of insertions,
deletions and replacements of single characters that turn the one into the other. The table grows at the
ends of the prefixes, so it is described for the prefixes read backwards.
-/

namespace RecordQuery.Text

/-! ## Edits -/

/-- A text turns into another one by a number of insertions, deletions and replacements of single
characters. -/
inductive Edited : (source target : List Char) → (count : Nat) → Prop where
  | nothing : Edited [] [] 0
  | kept {source target : List Char} {count : Nat} (c : Char)
      (behind : Edited source target count) :
      Edited (c :: source) (c :: target) count
  | replaced {source target : List Char} {count : Nat} (c d : Char)
      (behind : Edited source target count) :
      Edited (c :: source) (d :: target) (count + 1)
  | deleted {source target : List Char} {count : Nat} (c : Char)
      (behind : Edited source target count) :
      Edited (c :: source) target (count + 1)
  | inserted {source target : List Char} {count : Nat} (d : Char)
      (behind : Edited source target count) :
      Edited source (d :: target) (count + 1)

/-- The least number of edits that turn a text into another one. -/
def IsDistance (source target : List Char) (count : Nat) : Prop :=
  IsLeast {edits | Edited source target edits} count

section Edits

variable {source target source' target' : List Char} {count count' : Nat}

theorem Edited.append (first : Edited source target count)
    (second : Edited source' target' count') :
    Edited (source ++ source') (target ++ target') (count + count') := by
  induction first with
  | nothing => simpa using second
  | kept c _ inductionHypothesis => exact .kept c inductionHypothesis
  | replaced c d _ inductionHypothesis =>
      rw [Nat.add_right_comm]
      exact .replaced c d inductionHypothesis
  | deleted c _ inductionHypothesis =>
      rw [Nat.add_right_comm]
      exact .deleted c inductionHypothesis
  | inserted d _ inductionHypothesis =>
      rw [Nat.add_right_comm]
      exact .inserted d inductionHypothesis

theorem Edited.reverse (edited : Edited source target count) :
    Edited source.reverse target.reverse count := by
  induction edited with
  | nothing => exact .nothing
  | kept c _ inductionHypothesis =>
      simpa using inductionHypothesis.append (.kept c .nothing)
  | replaced c d _ inductionHypothesis =>
      simpa using inductionHypothesis.append (.replaced c d .nothing)
  | deleted c _ inductionHypothesis =>
      simpa using inductionHypothesis.append (.deleted c .nothing)
  | inserted d _ inductionHypothesis =>
      simpa using inductionHypothesis.append (.inserted d .nothing)

theorem edited_reverse_iff :
    Edited source.reverse target.reverse count ↔ Edited source target count := by
  constructor
  · intro edited
    simpa using edited.reverse
  · exact Edited.reverse

/-- Each edit makes the text at most one character longer. -/
theorem Edited.length_le (edited : Edited source target count) :
    target.length ≤ source.length + count := by
  induction edited with
  | nothing => exact Nat.le_refl 0
  | kept | replaced | deleted | inserted =>
      simp only [List.length_cons] at *
      omega

end Edits

/-! ## Distances -/

section Distances

variable {source target : List Char}

theorem isDistance_reverse_iff {count : Nat} :
    IsDistance source.reverse target.reverse count ↔
      IsDistance source target count := by
  simp only [IsDistance, edited_reverse_iff]

theorem isDistance_nil (target : List Char) :
    IsDistance [] target target.length := by
  constructor
  · induction target with
    | nil => exact .nothing
    | cons d target inductionHypothesis => exact .inserted d inductionHypothesis
  · intro count edited
    simpa using Edited.length_le edited

/-- All characters of a text have to go. -/
theorem isDistance_cons_nil (c : Char) {count : Nat}
    (distance : IsDistance source [] count) :
    IsDistance (c :: source) [] (count + 1) := by
  constructor
  · exact .deleted c distance.1
  · intro edits edited
    cases edited with
    | deleted _ behind => exact Nat.succ_le_succ (distance.2 behind)

/-- The distance of two texts is found from those of the texts with the first character of the one, of the
other and of both left out. -/
theorem isDistance_cons (c d : Char) {left above corner : Nat}
    (leftDistance : IsDistance (c :: source) target left)
    (aboveDistance : IsDistance source (d :: target) above)
    (cornerDistance : IsDistance source target corner) :
    IsDistance (c :: source) (d :: target)
      (min (min (left + 1) (above + 1))
        (if c = d then corner else corner + 1)) := by
  constructor
  · have replaced : Edited (c :: source) (d :: target)
        (if c = d then corner else corner + 1) := by
      split
      · next same => exact same ▸ .kept c cornerDistance.1
      · exact .replaced c d cornerDistance.1
    have inserted : Edited (c :: source) (d :: target) (left + 1) :=
      .inserted d leftDistance.1
    have deleted : Edited (c :: source) (d :: target) (above + 1) :=
      .deleted c aboveDistance.1
    exact min_rec' _ (min_rec' _ inserted deleted) replaced
  · intro edits edited
    cases edited with
    | kept _ behind =>
        have least := cornerDistance.2 behind
        rw [if_pos rfl]
        omega
    | replaced _ _ behind =>
        have least := cornerDistance.2 behind
        split <;> omega
    | deleted _ behind =>
        have least := aboveDistance.2 behind
        omega
    | inserted _ behind =>
        have least := leftDistance.2 behind
        omega

end Distances

/-! ## Rows of the table -/

section Rows

/-- Cells that hold the distances of a prefix of the source to the prefixes of the target, from a certain
one on. The prefixes are read backwards: `passed` is the first of those of the target, and `target` is what
follows it. -/
inductive IsRow (source : List Char) :
    (passed target : List Char) → List Nat → Prop where
  | last {passed : List Char} {cell : Nat}
      (distance : IsDistance source passed cell) :
      IsRow source passed [] [cell]
  | cell {passed target : List Char} {d : Char} {cell : Nat} {row : List Nat}
      (distance : IsDistance source passed cell)
      (others : IsRow source (d :: passed) target row) :
      IsRow source passed (d :: target) (cell :: row)

variable {source passed target : List Char} {row : List Nat}

theorem isRow_range' (passed target : List Char) :
    IsRow [] passed target
      (List.range' passed.length (target.length + 1)) := by
  induction target generalizing passed with
  | nil => exact .last (isDistance_nil passed)
  | cons d target inductionHypothesis =>
      exact .cell (isDistance_nil passed) (inductionHypothesis (d :: passed))

theorem IsRow.exists_cons (isRow : IsRow source passed target row) :
    ∃ cell others, row = cell :: others ∧ IsDistance source passed cell := by
  cases isRow with
  | last distance => exact ⟨_, [], rfl, distance⟩
  | cell distance _ => exact ⟨_, _, rfl, distance⟩

theorem IsRow.editCells (isRow : IsRow source passed target row) (c : Char)
    {left : Nat} (distance : IsDistance (c :: source) passed left) :
    IsRow (c :: source) passed target
      (left :: Text.editCells c left target row) := by
  induction isRow generalizing left with
  | last => exact .last distance
  | cell corner others inductionHypothesis =>
      obtain ⟨above, rest, rfl, aboveDistance⟩ := others.exists_cons
      exact .cell distance (inductionHypothesis
        (isDistance_cons c _ distance aboveDistance corner))

theorem IsRow.editRow (isRow : IsRow source [] target row) (c : Char) :
    IsRow (c :: source) [] target (Text.editRow target row c) := by
  obtain ⟨first, rest, rfl, distance⟩ := isRow.exists_cons
  exact isRow.editCells c (isDistance_cons_nil c distance)

theorem IsRow.foldl (isRow : IsRow source [] target row)
    (others : List Char) :
    IsRow (others.reverse ++ source) [] target
      (others.foldl (Text.editRow target) row) := by
  induction others generalizing source row with
  | nil => exact isRow
  | cons c others inductionHypothesis =>
      simpa using inductionHypothesis (isRow.editRow c)

theorem IsRow.getLastD (isRow : IsRow source passed target row) :
    IsDistance source (target.reverse ++ passed) (row.getLastD 0) := by
  induction isRow with
  | last distance => exact distance
  | cell _ others inductionHypothesis =>
      obtain ⟨above, rest, rfl, _⟩ := others.exists_cons
      simpa using inductionHypothesis

/-- The table gives the least number of edits. -/
theorem isDistance_editDistance (source target : List Char) :
    IsDistance source target (editDistance source target) := by
  have first : IsRow [] [] target (List.range (target.length + 1)) := by
    rw [List.range_eq_range']
    exact isRow_range' [] target
  have last := (first.foldl source).getLastD
  rw [List.append_nil, List.append_nil] at last
  exact isDistance_reverse_iff.mp last

end Rows

end RecordQuery.Text
