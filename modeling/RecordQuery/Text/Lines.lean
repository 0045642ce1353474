/-!
# Lines

The line feeds of a text divide it into lines. A text without line feeds is one line, and behind a line
feed at the end stands an empty line.
-/

namespace RecordQuery.Text

def lines (text : List Char) : List (List Char) :=
  text.splitOn '\n'

section Lines

variable {text front back line : List Char}
  {above below : List (List Char)}

theorem lines_ne_nil (text : List Char) : lines text ≠ [] :=
  List.splitOn_ne_nil '\n' text

theorem lines_of_no_lineFeed (unbroken : '\n' ∉ text) :
    lines text = [text] :=
  List.splitOn_eq_singleton unbroken

theorem lines_append_lineFeed (front back : List Char) :
    lines (front ++ '\n' :: back) = lines front ++ lines back :=
  List.splitOn_append_cons_self front back

theorem length_lines_eq_one_iff :
    (lines text).length = 1 ↔ '\n' ∉ text := by
  constructor
  · intro single broken
    obtain ⟨front, back, rfl⟩ := List.append_of_mem broken
    have first := List.length_pos_iff.mpr (lines_ne_nil front)
    have second := List.length_pos_iff.mpr (lines_ne_nil back)
    rw [lines_append_lineFeed, List.length_append] at single
    omega
  · intro unbroken
    rw [lines_of_no_lineFeed unbroken]
    rfl

/-- What stands in front of a text without a line feed between them belongs to its first line. -/
theorem lines_append_of_no_lineFeed (unbroken : '\n' ∉ front)
    (divided : lines back = line :: below) :
    lines (front ++ back) = (front ++ line) :: below := by
  induction front with
  | nil => exact divided
  | cons c rest inductionHypothesis =>
      have notFeed : ¬ (c == '\n') = true := by
        intro isFeed
        exact unbroken (by simp [eq_of_beq isFeed])
      have behind := inductionHypothesis (List.not_mem_of_not_mem_cons unbroken)
      rw [lines] at behind
      rw [lines, List.cons_append, List.splitOn_cons_eq_if_modifyHead,
        if_neg notFeed, behind]
      rfl

/-- A text is its last line, or this stands behind the last line feed. -/
theorem exists_last_line (text : List Char) :
    ∃ last, '\n' ∉ last ∧
      (text = last ∨ ∃ front, text = front ++ '\n' :: last) := by
  by_cases broken : '\n' ∈ text
  · obtain ⟨last, front, backwards, unbroken⟩ :=
      List.eq_append_cons_of_mem (List.mem_reverse.mpr broken)
    refine ⟨last.reverse, by simpa using unbroken, Or.inr ⟨front.reverse, ?_⟩⟩
    rw [← List.reverse_inj, backwards]
    simp
  · exact ⟨text, broken, Or.inl rfl⟩

/-- Of two texts, the last line of the first one and the first line of the second make one line. -/
theorem lines_append (first : lines front = above ++ [line])
    {other : List Char} (second : lines back = other :: below) :
    lines (front ++ back) = above ++ (line ++ other) :: below := by
  obtain ⟨last, unbroken, rfl | ⟨others, rfl⟩⟩ := exists_last_line front
  · rw [lines_of_no_lineFeed unbroken] at first
    rw [List.singleton_eq_append_iff] at first
    rcases first with ⟨rfl, single⟩ | ⟨rfl, nothing⟩
    · obtain rfl := List.singleton_inj.mp single
      exact lines_append_of_no_lineFeed unbroken second
    · cases nothing
  · rw [lines_append_lineFeed, lines_of_no_lineFeed unbroken] at first
    obtain ⟨rfl, same⟩ := List.append_inj' first rfl
    obtain rfl := List.singleton_inj.mp same
    rw [List.append_assoc, List.cons_append, lines_append_lineFeed,
      lines_append_of_no_lineFeed unbroken second]

/-- Numbers are written on one line. -/
theorem lineFeed_not_mem_toDigits {base : Nat} (large : 1 < base)
    (number : Nat) : '\n' ∉ Nat.toDigits base number := by
  induction number using Nat.strongRecOn with
  | ind number inductionHypothesis =>
      have single : ∀ digit, '\n' ∉ [Nat.digitChar digit] := by
        intro digit member
        exact Nat.digitChar_ne '\n' (by decide) (List.mem_singleton.mp member).symm
      rw [Nat.toDigits_eq_if large]
      split
      · exact single number
      · have smaller : number / base < number :=
          Nat.div_lt_self (by omega) large
        rw [List.mem_append, not_or]
        exact ⟨inductionHypothesis _ smaller, single _⟩

end Lines

end RecordQuery.Text
