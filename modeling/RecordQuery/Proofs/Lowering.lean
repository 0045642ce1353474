import RecordQuery.Text.Lowercase

/-!
# Lowercase forms of joined texts

The lowercase form of a text is that of its characters, one by one, but for capital sigmas, each of which
looks past case-ignorable characters for letters on both sides. So the form of a part depends on what
stands around it only through the nearest character on each side that is not ignorable, and a character
that belongs to no word divides a text into parts that have their forms by themselves.
-/

namespace RecordQuery.Text

/-! ## What a sigma meets -/

section Meeting

/-- Whether a sigma sees through a text, because all of it is case-ignorable. -/
def isSeenThrough (text : List Char) : Bool :=
  text.all (inRanges caseIgnorableRanges)

variable {text rest other : List Char}

theorem meetsCased_append (text rest : List Char) :
    meetsCased (text ++ rest) =
      if isSeenThrough text then meetsCased rest else meetsCased text := by
  induction text with
  | nil => rfl
  | cons c tail inductionHypothesis =>
      by_cases ignorable : inRanges caseIgnorableRanges c = true
      · simpa [meetsCased, isSeenThrough, ignorable] using inductionHypothesis
      · simp [meetsCased, isSeenThrough, ignorable]

theorem meetsCased_append_of_isSeenThrough
    (seenThrough : isSeenThrough text = true) (rest : List Char) :
    meetsCased (text ++ rest) = meetsCased rest := by
  rw [meetsCased_append, if_pos seenThrough]

theorem meetsCased_of_isSeenThrough (seenThrough : isSeenThrough text = true) :
    meetsCased text = false := by
  have nothing := meetsCased_append_of_isSeenThrough seenThrough []
  rw [List.append_nil] at nothing
  exact nothing

theorem meetsCased_append_of_not_isSeenThrough
    (blocked : isSeenThrough text = false) (rest : List Char) :
    meetsCased (text ++ rest) = meetsCased text := by
  rw [meetsCased_append, blocked]
  simp

theorem meetsCased_append_congr (same : meetsCased rest = meetsCased other)
    (text : List Char) :
    meetsCased (text ++ rest) = meetsCased (text ++ other) := by
  rw [meetsCased_append, meetsCased_append, same]

theorem isSeenThrough_reverse (text : List Char) :
    isSeenThrough text.reverse = isSeenThrough text := by
  simp [isSeenThrough]

end Meeting

/-! ## Letters -/

section Letters

/-- A character that every sigma sees a letter at. -/
structure ShowsLetter (c : Char) : Prop where
  not_ignorable : inRanges caseIgnorableRanges c = false
  cased : inRanges casedRanges c = true

theorem ShowsLetter.meetsCased_cons {c : Char} (letter : ShowsLetter c)
    (rest : List Char) : meetsCased (c :: rest) = true := by
  simp [meetsCased, letter.not_ignorable, letter.cased]

theorem ShowsLetter.isSeenThrough_cons {c : Char} (letter : ShowsLetter c)
    (rest : List Char) : isSeenThrough (c :: rest) = false := by
  simp [isSeenThrough, letter.not_ignorable]

theorem showsLetter_sigma : ShowsLetter 'Σ' := by
  constructor <;> (rw [inRanges_eq_any]; decide +kernel)

theorem showsLetter_omega : ShowsLetter 'Ω' := by
  constructor <;> (rw [inRanges_eq_any]; decide +kernel)

theorem showsLetter_phi : ShowsLetter 'Φ' := by
  constructor <;> (rw [inRanges_eq_any]; decide +kernel)

theorem no_sigma_of_isSeenThrough {text : List Char}
    (seenThrough : isSeenThrough text = true) : 'Σ' ∉ text := by
  intro member
  have ignorable := List.all_eq_true.mp seenThrough 'Σ' member
  rw [showsLetter_sigma.not_ignorable] at ignorable
  cases ignorable

end Letters

/-! ## The form of a part -/

section Parts

/-- The lowercase form of a character behind `left`, the last of which comes first, and in front of
`right`. -/
def lowerAt (left : List Char) (c : Char) (right : List Char) : List Char :=
  if c = 'Σ' then [if meetsCased left && !meetsCased right then 'ς' else 'σ']
  else lowerLetter c

/-- The lowercase form of a text behind `left`, the last of which comes first, and in front of
`right`. -/
def lowerBetween (left : List Char) : (text right : List Char) → List Char
  | [], _ => []
  | c :: rest, right =>
      lowerAt left c (rest ++ right) ++ lowerBetween (c :: left) rest right

variable {left left' right right' text : List Char}

theorem lowerAt_congr (sameLeft : meetsCased left = meetsCased left')
    (sameRight : meetsCased right = meetsCased right') (c : Char) :
    lowerAt left c right = lowerAt left' c right' := by
  rw [lowerAt, lowerAt, sameLeft, sameRight]

theorem lowerAt_of_ne_sigma {c : Char} (notSigma : c ≠ 'Σ')
    (left right : List Char) : lowerAt left c right = lowerLetter c :=
  if_neg notSigma

/-- A part keeps its form where its neighbours are replaced by others that show the same letters. -/
theorem lowerBetween_congr (sameLeft : meetsCased left = meetsCased left')
    (sameRight : meetsCased right = meetsCased right') (text : List Char) :
    lowerBetween left text right = lowerBetween left' text right' := by
  induction text generalizing left left' with
  | nil => rfl
  | cons c rest inductionHypothesis =>
      have behind := meetsCased_append_congr sameRight rest
      have sameFurther : meetsCased (c :: left) = meetsCased (c :: left') :=
        meetsCased_append_congr sameLeft [c]
      rw [lowerBetween, lowerBetween, lowerAt_congr sameLeft behind,
        inductionHypothesis sameFurther]

theorem lowerBetween_of_no_sigma (noSigma : 'Σ' ∉ text)
    (left right : List Char) :
    lowerBetween left text right = text.flatMap lowerLetter := by
  induction text generalizing left with
  | nil => rfl
  | cons c rest inductionHypothesis =>
      have notSigma : c ≠ 'Σ' := (List.ne_of_not_mem_cons noSigma).symm
      have noneBehind := List.not_mem_of_not_mem_cons noSigma
      rw [lowerBetween, lowerAt_of_ne_sigma notSigma,
        inductionHypothesis noneBehind, List.flatMap_cons]

theorem lowerBetween_append (left text rest right : List Char) :
    lowerBetween left (text ++ rest) right =
      lowerBetween left text (rest ++ right) ++
        lowerBetween (text.reverse ++ left) rest right := by
  induction text generalizing left with
  | nil => rfl
  | cons c tail inductionHypothesis =>
      simp [lowerBetween, inductionHypothesis]

/-- A capital sigma hides what stands on its one side from what stands on the other. -/
theorem lowerBetween_sigma (left initial rest right : List Char) :
    lowerBetween left (initial ++ 'Σ' :: rest) right =
      lowerBetween left initial ['Σ'] ++
        (lowerAt (initial.reverse ++ left) 'Σ' (rest ++ right) ++
          lowerBetween ['Σ'] rest right) := by
  have letter := showsLetter_sigma.meetsCased_cons
  have before : lowerBetween left initial ('Σ' :: (rest ++ right)) =
      lowerBetween left initial ['Σ'] :=
    lowerBetween_congr rfl ((letter _).trans (letter []).symm) initial
  have behind : lowerBetween ('Σ' :: (initial.reverse ++ left)) rest right =
      lowerBetween ['Σ'] rest right :=
    lowerBetween_congr ((letter _).trans (letter []).symm) rfl rest
  rw [lowerBetween_append, lowerBetween, List.cons_append, before, behind]

theorem lowerBetween_of_lone_sigma {initial rest : List Char}
    (noneBefore : 'Σ' ∉ initial) (noneBehind : 'Σ' ∉ rest) :
    lowerBetween [] (initial ++ 'Σ' :: rest) [] =
      initial.flatMap lowerLetter ++
        (lowerAt initial.reverse 'Σ' rest ++ rest.flatMap lowerLetter) := by
  rw [lowerBetween_sigma, lowerBetween_of_no_sigma noneBefore,
    lowerBetween_of_no_sigma noneBehind, List.append_nil, List.append_nil]

theorem lowerBehind_eq (left text : List Char) :
    lowerBehind left text = lowerBetween left text [] := by
  induction text generalizing left with
  | nil => rfl
  | cons c rest inductionHypothesis =>
      rw [lowerBehind, lowerBetween, List.append_nil, inductionHypothesis]
      rfl

theorem toList_lower (text : String) :
    (lower text).toList = lowerBetween [] text.toList [] := by
  rw [lower, String.toList_ofList, lowerBehind_eq]

theorem lower_eq_iff {text other : String} :
    lower text = lower other ↔
      lowerBetween [] text.toList [] = lowerBetween [] other.toList [] := by
  rw [← toList_lower, ← toList_lower, String.toList_inj]

end Parts

/-! ## Division between words -/

section Division

/-- A character that stays as it is and that no sigma sees a letter at or behind. -/
structure DividesWords (c : Char) : Prop where
  not_ignorable : inRanges caseIgnorableRanges c = false
  not_cased : inRanges casedRanges c = false
  not_sigma : c ≠ 'Σ'
  stays : lowerLetter c = [c]

variable {c : Char}

theorem DividesWords.meetsCased_cons (divides : DividesWords c)
    (rest : List Char) : meetsCased (c :: rest) = false := by
  simp [meetsCased, divides.not_ignorable, divides.not_cased]

/-- Both sides of a division have the forms that they have by themselves. -/
theorem lowerBetween_divided (divides : DividesWords c)
    (text rest : List Char) :
    lowerBetween [] (text ++ c :: rest) [] =
      lowerBetween [] text [] ++ c :: lowerBetween [] rest [] := by
  have before : lowerBetween [] text (c :: rest) = lowerBetween [] text [] :=
    lowerBetween_congr rfl (divides.meetsCased_cons rest) text
  have behind : lowerBetween (c :: text.reverse) rest [] =
      lowerBetween [] rest [] :=
    lowerBetween_congr (divides.meetsCased_cons text.reverse) rfl rest
  rw [lowerBetween_append, lowerBetween, lowerAt_of_ne_sigma divides.not_sigma,
    divides.stays]
  simp [before, behind]

theorem dividesWords_lineFeed : DividesWords '\n' := by
  refine ⟨?_, ?_, by decide, by decide +kernel⟩ <;>
    (rw [inRanges_eq_any]; decide +kernel)

theorem dividesWords_space : DividesWords ' ' := by
  refine ⟨?_, ?_, by decide, by decide +kernel⟩ <;>
    (rw [inRanges_eq_any]; decide +kernel)

theorem dividesWords_underscore : DividesWords '_' := by
  refine ⟨?_, ?_, by decide, by decide +kernel⟩ <;>
    (rw [inRanges_eq_any]; decide +kernel)

end Division

end RecordQuery.Text
