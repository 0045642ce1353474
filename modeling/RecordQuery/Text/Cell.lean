/-!
# Cells of a table

A cell has a fixed number of characters: a longer text is cut and ends in three dots, a shorter one is
filled with spaces.
-/

namespace RecordQuery.Text

def ellipsis : List Char := ['.', '.', '.']

/-- Cuts a text that has more than `width` characters, so that it has `width` of them together with the
dots, but never fewer than the dots. -/
def truncate (width : Nat) (text : List Char) : List Char :=
  if width < text.length then text.take (width - ellipsis.length) ++ ellipsis else text

def pad (width : Nat) (text : List Char) : List Char :=
  text ++ List.replicate (width - text.length) ' '

def cell (width : Nat) (text : List Char) : List Char :=
  pad width (truncate width text)

theorem length_truncate_le {width : Nat} (wide : ellipsis.length ≤ width) (text : List Char) :
    (truncate width text).length ≤ width := by
  unfold truncate
  split
  · next long =>
      simp only [List.length_append, List.length_take]
      omega
  · omega

theorem length_pad (width : Nat) (text : List Char) :
    (pad width text).length = max width text.length := by
  simp only [pad, List.length_append, List.length_replicate]
  omega

theorem length_cell {width : Nat} (wide : ellipsis.length ≤ width) (text : List Char) :
    (cell width text).length = width := by
  rw [cell, length_pad]
  exact Nat.max_eq_left (length_truncate_le wide text)

end RecordQuery.Text
