/-!
# Searching in a text

Whether a text occurs in another, and cutting a text at the first or the last occurrence.
-/

namespace RecordQuery.Text

/-- Whether `needle` occurs in a text as a run of neighbouring characters. -/
def occursIn (needle : List Char) : List Char → Bool
  | [] => needle.isEmpty
  | c :: rest => needle.isPrefixOf (c :: rest) || occursIn needle rest

theorem occursIn_iff {needle text : List Char} :
    occursIn needle text = true ↔ needle <:+: text := by
  induction text with
  | nil => simp [occursIn]
  | cons c rest inductionHypothesis =>
      rw [occursIn, Bool.or_eq_true, inductionHypothesis, List.isPrefixOf_iff_prefix,
        List.infix_cons_iff]

/-- The part of a text before the first occurrence of `mark`, all of it if there is none. -/
def before (mark : List Char) : List Char → List Char
  | [] => []
  | c :: rest => if mark.isPrefixOf (c :: rest) then [] else c :: before mark rest

/-- The parts of a text before and after the last occurrence of `mark`. -/
def splitLast? (mark : List Char) : List Char → Option (List Char × List Char)
  | [] => none
  | c :: rest =>
      match splitLast? mark rest with
      | some (left, right) => some (c :: left, right)
      | none =>
          if mark.isPrefixOf (c :: rest) then some ([], (c :: rest).drop mark.length) else none

/-- The text without `ending` at its end, if it ends so. -/
def dropEnding? (ending text : List Char) : Option (List Char) :=
  if ending.isSuffixOf text then some (text.take (text.length - ending.length)) else none

section FirstOccurrence

variable {mark text : List Char}

theorem before_prefix_self (mark text : List Char) : before mark text <+: text := by
  induction text with
  | nil => exact List.prefix_rfl
  | cons c rest inductionHypothesis =>
      rw [before]
      split
      · exact List.nil_prefix
      · exact (List.prefix_cons_inj c).mpr inductionHypothesis

theorem before_of_not_infix (absent : ¬ mark <:+: text) :
    before mark text = text := by
  induction text with
  | nil => rfl
  | cons c rest inductionHypothesis =>
      rw [List.infix_cons_iff, not_or] at absent
      rw [before, if_neg (mt List.isPrefixOf_iff_prefix.mp absent.1),
        inductionHypothesis absent.2]

/-- There is no occurrence before the first one. -/
theorem not_infix_before (nonempty : mark ≠ []) (text : List Char) :
    ¬ mark <:+: before mark text := by
  induction text with
  | nil => exact fun occurs => nonempty (List.infix_nil.mp occurs)
  | cons c rest inductionHypothesis =>
      rw [before]
      split
      · exact fun occurs => nonempty (List.infix_nil.mp occurs)
      · next notHere =>
          rw [List.infix_cons_iff, not_or]
          refine ⟨fun begins => notHere ?_, inductionHypothesis⟩
          have longer : c :: before mark rest <+: c :: rest :=
            (List.prefix_cons_inj c).mpr (before_prefix_self mark rest)
          exact List.isPrefixOf_iff_prefix.mpr (begins.trans longer)

/-- A mark that does not overlap an earlier occurrence is the first one. -/
theorem before_append (nonempty : mark ≠ [])
    (first : ¬ mark <:+: text ++ mark.dropLast) (rest : List Char) :
    before mark (text ++ (mark ++ rest)) = text := by
  induction text with
  | nil =>
      obtain ⟨c, others, rfl⟩ := List.exists_cons_of_ne_nil nonempty
      have begins : c :: others <+: c :: (others ++ rest) :=
        List.prefix_append _ _
      rw [List.nil_append, List.cons_append, before,
        if_pos (List.isPrefixOf_iff_prefix.mpr begins)]
  | cons c text inductionHypothesis =>
      rw [List.cons_append, List.infix_cons_iff, not_or] at first
      have notHere : ¬ mark <+: c :: (text ++ (mark ++ rest)) := by
        intro begins
        have shorter : c :: (text ++ mark.dropLast) <+: c :: (text ++ (mark ++ rest)) :=
          (List.prefix_cons_inj c).mpr <| (List.prefix_append_right_inj text).mpr <|
            (List.dropLast_prefix mark).trans (List.prefix_append mark rest)
        refine first.1 (List.prefix_of_prefix_length_le begins shorter ?_)
        rw [List.length_cons, List.length_append, List.length_dropLast]
        omega
      rw [List.cons_append, before, if_neg (mt List.isPrefixOf_iff_prefix.mp notHere),
        inductionHypothesis first.2]

theorem before_append_of_infix (occurs : mark <:+: text) (rest : List Char) :
    before mark (text ++ rest) = before mark text := by
  induction text with
  | nil =>
      obtain rfl := List.infix_nil.mp occurs
      cases rest <;> rfl
  | cons c text inductionHypothesis =>
      rw [List.cons_append, before, before]
      by_cases here : mark <+: c :: text
      · have begins : mark <+: c :: (text ++ rest) :=
          here.trans (List.prefix_append (c :: text) rest)
        rw [if_pos (List.isPrefixOf_iff_prefix.mpr here),
          if_pos (List.isPrefixOf_iff_prefix.mpr begins)]
      · have behind := (List.infix_cons_iff.mp occurs).resolve_left here
        have notHere : ¬ mark <+: c :: (text ++ rest) := by
          intro begins
          have shorter : mark.length ≤ (c :: text).length :=
            Nat.le_succ_of_le behind.length_le
          exact here <| List.prefix_of_prefix_length_le begins
            (List.prefix_append (c :: text) rest) shorter
        rw [if_neg (mt List.isPrefixOf_iff_prefix.mp here),
          if_neg (mt List.isPrefixOf_iff_prefix.mp notHere),
          inductionHypothesis behind]

/-- A mark stays absent when characters are added that its last one is not among. -/
theorem not_infix_append {last : Char} {others : List Char}
    (absent : ¬ mark ++ [last] <:+: text) (notAdded : last ∉ others) :
    ¬ mark ++ [last] <:+: text ++ others := by
  rintro ⟨left, right, whole⟩
  rcases List.append_eq_append_iff.mp whole with
    ⟨further, inText, _⟩ | ⟨added, inMark, inOthers⟩
  · exact absent ⟨left, further, inText.symm⟩
  · rcases List.eq_nil_or_concat added with rfl | ⟨front, c, rfl⟩
    · rw [List.append_nil] at inMark
      exact absent ⟨left, [], by rw [List.append_nil, inMark]⟩
    · rw [List.concat_eq_append, ← List.append_assoc, ← List.append_assoc] at inMark
      obtain ⟨_, same⟩ := List.append_inj' inMark rfl
      obtain rfl := List.singleton_inj.mp same
      exact notAdded (by simp [inOthers])

end FirstOccurrence

theorem dropEnding?_eq_some_iff {ending text left : List Char} :
    dropEnding? ending text = some left ↔ text = left ++ ending := by
  rw [dropEnding?]
  constructor
  · intro dropped
    split at dropped
    · next ends =>
        obtain ⟨front, rfl⟩ := List.isSuffixOf_iff_suffix.mp ends
        cases dropped
        simp
    · cases dropped
  · rintro rfl
    rw [if_pos (List.isSuffixOf_iff_suffix.mpr (List.suffix_append left ending))]
    simp

end RecordQuery.Text
