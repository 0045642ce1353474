/-!
# Ranges of code points

Character properties are stored as arrays of ranges, both ends included. The union of the ranges is
the set of characters that have the property.
-/

namespace RecordQuery.Text

def inRanges (ranges : Array (Nat × Nat)) (c : Char) : Bool :=
  ranges.any fun (first, last) => first ≤ c.toNat && c.toNat ≤ last

theorem inRanges_eq_any (ranges : Array (Nat × Nat)) (c : Char) :
    inRanges ranges c =
      ranges.toList.any fun (first, last) => first ≤ c.toNat && c.toNat ≤ last :=
  Array.any_toList.symm

end RecordQuery.Text
