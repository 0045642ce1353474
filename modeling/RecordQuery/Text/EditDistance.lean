/-!
# Edit distance

The least number of insertions, deletions and replacements of single characters that turn one text
into another. The table of distances is filled one row at a time: the row of a prefix `p` of the
source holds the distance from `p` to each prefix of the target.
-/

namespace RecordQuery.Text

/-- The cells of the next row after its first one: `left` is the cell to the left, the last
argument holds the row above. -/
def editCells (c : Char) (left : Nat) : List Char → List Nat → List Nat
  | d :: target, corner :: above :: row =>
      let replaced := if c = d then corner else corner + 1
      let cell := min (min (left + 1) (above + 1)) replaced
      cell :: editCells c cell target (above :: row)
  | _, _ => []

/-- The row of a prefix that is one character longer than that of `row`. -/
def editRow (target : List Char) (row : List Nat) (c : Char) : List Nat :=
  let first := row.headD 0 + 1
  first :: editCells c first target row

def editDistance (source target : List Char) : Nat :=
  (source.foldl (editRow target) (List.range (target.length + 1))).getLastD 0

/-- The first of the candidates whose spellings are nearest to a word, if it is no further away than
`reach`. -/
def nearest? {α : Type} (reach : Nat) (word : String) (spelling : α → String)
    (candidates : List α) : Option α :=
  let distance (candidate : α) := editDistance word.toList (spelling candidate).toList
  candidates.find? fun candidate =>
    distance candidate ≤ reach && candidates.all fun other => distance candidate ≤ distance other

end RecordQuery.Text
