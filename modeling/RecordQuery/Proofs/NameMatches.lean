import RecordQuery.Proofs.TextMatches

/-!
# Records of a given name

A record that has a name, in any case, contains it as a text, is a sibling under it, and has it as an
ancestor. The text begins with the name and goes on in a new line, so the lowercase form of the name
begins that of the text. The number of a sibling consists of characters that lowercase forms take over
and have from nowhere else, so it can be dropped before or after lowering.
-/

namespace RecordQuery

namespace Text

/-! ## Characters without case -/

section Caseless

/-- A character that is its own lowercase form wherever it stands, and part of no other. -/
structure StandsFast (c : Char) : Prop where
  lowerAt_eq : ∀ left right, lowerAt left c right = [c]
  eq_of_mem : ∀ {left other right}, c ∈ lowerAt left other right → other = c

variable {c other : Char}

/-- A number that is no code point stands for the null character. -/
theorem toNat_ofNat_eq_or (code : Nat) :
    (Char.ofNat code).toNat = code ∨ (Char.ofNat code).toNat = 0 := by
  by_cases isCode : code.isValidChar
  · have same : Char.ofNat code = Char.ofNatAux code isCode := dif_pos isCode
    rw [same]
    exact Or.inl rfl
  · have null : Char.ofNat code = '\x00' := dif_neg isCode
    rw [null]
    exact Or.inr rfl

theorem small_le_of_mem_caseRuns {run : CaseRun} (member : run ∈ caseRuns) :
    0x61 ≤ run.small := by
  have all : ∀ run ∈ caseRuns.toList, 0x61 ≤ run.small := by decide +kernel
  exact all run (Array.mem_toList_iff.mpr member)

/-- The characters of lowercase forms that come before the small letters are taken over. -/
theorem eq_of_mem_lowerLetter (positive : 0 < c.toNat) (low : c.toNat < 0x61)
    (member : c ∈ lowerLetter other) : other = c := by
  unfold lowerLetter at member
  split at member
  · obtain rfl := List.mem_singleton.mp member
    by_cases capital : 0x41 ≤ other.toNat ∧ other.toNat ≤ 0x5A
    · rw [toNat_toLower_of_capital capital] at low
      omega
    · exact (toLower_of_not_capital capital).symm
  · split at member
    · simp only [List.mem_cons, List.not_mem_nil, or_false] at member
      rcases member with rfl | rfl
      · exact absurd low (by decide)
      · exact absurd low (by decide)
    · dsimp only at member
      split at member
      · next run found =>
          have small := small_le_of_mem_caseRuns (Array.mem_of_find?_eq_some found)
          obtain rfl := List.mem_singleton.mp member
          have code := toNat_ofNat_eq_or (run.small + (other.toNat - run.first))
          omega
      · exact (List.mem_singleton.mp member).symm

theorem standsFast_of_lt (positive : 0 < c.toNat) (low : c.toNat < 0x61)
    (notCapital : ¬ (0x41 ≤ c.toNat ∧ c.toNat ≤ 0x5A)) : StandsFast c := by
  constructor
  · intro left right
    have notSigma : c ≠ 'Σ' := by
      rintro rfl
      exact absurd low (by decide)
    have ascii : c.toNat < 0x80 := by omega
    rw [lowerAt_of_ne_sigma notSigma, lowerLetter, if_pos ascii,
      toLower_of_not_capital notCapital]
  · intro left other right member
    rw [lowerAt] at member
    split at member
    · obtain rfl := List.mem_singleton.mp member
      split at low <;> exact absurd low (by decide)
    · exact eq_of_mem_lowerLetter positive low member

theorem standsFast_underscore : StandsFast '_' :=
  standsFast_of_lt (by decide) (by decide) (by decide)

theorem standsFast_of_isAsciiDigit (digit : isAsciiDigit c = true) :
    StandsFast c := by
  simp only [isAsciiDigit, Bool.and_eq_true, decide_eq_true_eq, Char.le_def,
    UInt32.le_iff_toNat_le] at digit
  change 0x30 ≤ c.toNat ∧ c.toNat ≤ 0x39 at digit
  exact standsFast_of_lt (by omega) (by omega) (by omega)

end Caseless

/-! ## Characters found again -/

section FoundAgain

variable {c : Char} {left text right front back : List Char}

theorem lowerAt_ne_nil (left : List Char) (c : Char) (right : List Char) :
    lowerAt left c right ≠ [] := by
  unfold lowerAt lowerLetter
  dsimp only
  repeat' split
  all_goals exact List.cons_ne_nil _ _

theorem eq_nil_of_lowerBetween_eq_nil
    (empty : lowerBetween left text right = []) : text = [] := by
  cases text with
  | nil => rfl
  | cons c rest =>
      have first := (List.append_eq_nil_iff.mp empty).1
      exact absurd first (lowerAt_ne_nil left c (rest ++ right))

/-- A character that stands fast is found in a lowercase form only where the text itself has it. -/
theorem exists_append_of_lowerBetween_eq_append (fast : StandsFast c)
    (form : lowerBetween left text right = front ++ c :: back) :
    ∃ before behind, text = before ++ c :: behind ∧
      lowerBetween left before (c :: (behind ++ right)) = front ∧
      lowerBetween (c :: (before.reverse ++ left)) behind right = back := by
  induction text generalizing left front with
  | nil => simp [lowerBetween] at form
  | cons other rest inductionHypothesis =>
      rw [lowerBetween] at form
      rcases List.append_eq_append_iff.mp form with
        ⟨further, rfl, formBehind⟩ | ⟨own, isOwn, formBehind⟩
      · obtain ⟨before, behind, rfl, formBefore, rfl⟩ :=
          inductionHypothesis formBehind
        refine ⟨other :: before, behind, rfl, ?_, by simp⟩
        simp [lowerBetween, formBefore]
      · cases own with
        | nil =>
            have formRest : lowerBetween (other :: left) rest right =
                [] ++ c :: back := formBehind.symm
            obtain ⟨before, behind, rfl, formBefore, rfl⟩ :=
              inductionHypothesis formRest
            refine ⟨other :: before, behind, rfl, ?_, by simp⟩
            rw [List.append_nil, List.append_assoc] at isOwn
            rw [lowerBetween, formBefore, List.append_nil]
            exact isOwn
        | cons first others =>
            obtain ⟨rfl, rfl⟩ := List.cons.inj formBehind
            have member : c ∈ lowerAt left other (rest ++ right) := by
              simp [isOwn]
            obtain rfl := fast.eq_of_mem member
            rw [fast.lowerAt_eq, List.singleton_eq_append_iff] at isOwn
            rcases isOwn with ⟨rfl, single⟩ | ⟨_, single⟩
            · obtain rfl := (List.cons.inj single).2
              exact ⟨[], rest, rfl, rfl, rfl⟩
            · cases single

theorem exists_cons_of_lowerBetween_eq_cons (fast : StandsFast c)
    (form : lowerBetween left text right = c :: back) :
    ∃ behind, text = c :: behind ∧
      lowerBetween (c :: left) behind right = back := by
  rw [← List.nil_append (c :: back)] at form
  obtain ⟨before, behind, rfl, formBefore, formBehind⟩ :=
    exists_append_of_lowerBetween_eq_append fast form
  obtain rfl := eq_nil_of_lowerBetween_eq_nil formBefore
  exact ⟨behind, rfl, formBehind⟩

end FoundAgain

/-! ## The last mark of a number -/

section LastMark

variable {mark text left right : List Char}

theorem eq_append_of_splitLast? (found : splitLast? mark text = some (left, right)) :
    text = left ++ (mark ++ right) := by
  induction text generalizing left with
  | nil => cases found
  | cons c rest inductionHypothesis =>
      rw [splitLast?] at found
      split at found
      · next inner others foundBehind =>
          cases found
          rw [inductionHypothesis foundBehind, List.cons_append]
      · split at found
        · next begins =>
            cases found
            obtain ⟨others, whole⟩ := List.isPrefixOf_iff_prefix.mp begins
            rw [← whole, List.drop_left, List.nil_append]
        · cases found

theorem splitLast?_of_no_underscore (noUnderscore : '_' ∉ text) :
    splitLast? ['_', '_'] text = none := by
  induction text with
  | nil => rfl
  | cons c rest inductionHypothesis =>
      have differs : '_' ≠ c := List.ne_of_not_mem_cons noUnderscore
      have noneBehind :=
        inductionHypothesis (List.not_mem_of_not_mem_cons noUnderscore)
      simp [splitLast?, noneBehind, differs]

/-- A text without underscores is what stands behind the last two. -/
theorem splitLast?_append (noUnderscore : '_' ∉ right) (left : List Char) :
    splitLast? ['_', '_'] (left ++ '_' :: '_' :: right) = some (left, right) := by
  induction left with
  | nil =>
      have noneBehind := splitLast?_of_no_underscore noUnderscore
      have noneFirst : ¬ ['_', '_'].isPrefixOf ('_' :: right) = true := by
        intro begins
        obtain ⟨others, whole⟩ := List.isPrefixOf_iff_prefix.mp begins
        apply noUnderscore
        rw [← (List.cons.inj whole).2]
        exact List.mem_cons_self
      simp [splitLast?, noneBehind, noneFirst]
  | cons c rest inductionHypothesis =>
      rw [List.cons_append, splitLast?, inductionHypothesis]

end LastMark

end Text

/-! ## Numbers of siblings -/

section Numbers

open Text

/-- Whether a text is the number of a sibling: digits, at least one. -/
structure IsSiblingNumber (number : List Char) : Prop where
  nonempty : number ≠ []
  digits : ∀ c ∈ number, isAsciiDigit c = true

variable {name : String} {base number front text left right : List Char}

theorem IsSiblingNumber.no_underscore (isNumber : IsSiblingNumber number) :
    '_' ∉ number := by
  intro member
  have digit := isNumber.digits '_' member
  revert digit
  decide

theorem withoutSiblingNumber_of_number (isNumber : IsSiblingNumber number)
    (numbered : name.toList = base ++ '_' :: '_' :: number) :
    withoutSiblingNumber name = String.ofList base := by
  have notEmpty : number.isEmpty = false := by
    simpa using isNumber.nonempty
  have digits : number.all isAsciiDigit = true :=
    List.all_eq_true.mpr isNumber.digits
  rw [withoutSiblingNumber, numbered,
    splitLast?_append isNumber.no_underscore base]
  simp [notEmpty, digits]

theorem withoutSiblingNumber_of_no_number
    (unnumbered : ∀ base number, name.toList = base ++ '_' :: '_' :: number →
      ¬ IsSiblingNumber number) :
    withoutSiblingNumber name = name := by
  rw [withoutSiblingNumber]
  split
  · next base number found =>
      have whole := eq_append_of_splitLast? found
      split
      · next isNumber =>
          obtain ⟨notEmpty, digits⟩ := Bool.and_eq_true_iff.mp isNumber
          refine absurd ⟨?_, List.all_eq_true.mp digits⟩
            (unnumbered base number whole)
          simpa using notEmpty
      · rfl
  · rfl

/-! ### Their lowercase forms -/

theorem lowerBetween_digits (digits : ∀ c ∈ number, isAsciiDigit c = true)
    (left right : List Char) : lowerBetween left number right = number := by
  induction number generalizing left with
  | nil => rfl
  | cons c rest inductionHypothesis =>
      obtain ⟨first, others⟩ := List.forall_mem_cons.mp digits
      have fast := standsFast_of_isAsciiDigit first
      rw [lowerBetween, fast.lowerAt_eq, inductionHypothesis others,
        List.singleton_append]

theorem eq_digits_of_lowerBetween (digits : ∀ c ∈ number, isAsciiDigit c = true)
    (form : lowerBetween left text right = number) : text = number := by
  induction number generalizing left text with
  | nil => exact eq_nil_of_lowerBetween_eq_nil form
  | cons c rest inductionHypothesis =>
      obtain ⟨first, others⟩ := List.forall_mem_cons.mp digits
      have fast := standsFast_of_isAsciiDigit first
      obtain ⟨behind, rfl, formBehind⟩ :=
        exists_cons_of_lowerBetween_eq_cons fast form
      rw [inductionHypothesis others formBehind]

theorem lowerBetween_numbered (isNumber : IsSiblingNumber number)
    (base : List Char) :
    lowerBetween [] (base ++ '_' :: '_' :: number) [] =
      lowerBetween [] base [] ++ '_' :: '_' :: number := by
  have marked : lowerBetween [] ('_' :: number) [] = '_' :: number :=
    (lowerBetween_divided dividesWords_underscore [] number).trans
      (by rw [lowerBetween_digits isNumber.digits]; rfl)
  rw [lowerBetween_divided dividesWords_underscore, marked]

theorem exists_base_of_lowerBetween_numbered (isNumber : IsSiblingNumber number)
    (form : lowerBetween [] text [] = front ++ '_' :: '_' :: number) :
    ∃ base, text = base ++ '_' :: '_' :: number := by
  obtain ⟨base, marked, rfl, _, formMarked⟩ :=
    exists_append_of_lowerBetween_eq_append standsFast_underscore form
  obtain ⟨digits, rfl, formDigits⟩ :=
    exists_cons_of_lowerBetween_eq_cons standsFast_underscore formMarked
  exact ⟨base, by rw [eq_digits_of_lowerBetween isNumber.digits formDigits]⟩

/-- The number of a sibling can be dropped before or after lowering. -/
theorem lower_withoutSiblingNumber (name : String) :
    lower (withoutSiblingNumber name) = withoutSiblingNumber (lower name) := by
  by_cases numbered : ∃ base number,
      name.toList = base ++ '_' :: '_' :: number ∧ IsSiblingNumber number
  · obtain ⟨base, number, whole, isNumber⟩ := numbered
    have lowered : (lower name).toList =
        lowerBetween [] base [] ++ '_' :: '_' :: number := by
      rw [toList_lower, whole, lowerBetween_numbered isNumber]
    rw [withoutSiblingNumber_of_number isNumber whole,
      withoutSiblingNumber_of_number isNumber lowered, lower,
      String.toList_ofList, lowerBehind_eq]
  · have unnumbered : ∀ base number,
        name.toList = base ++ '_' :: '_' :: number → ¬ IsSiblingNumber number :=
      fun base number whole isNumber => numbered ⟨base, number, whole, isNumber⟩
    have loweredUnnumbered : ∀ base number,
        (lower name).toList = base ++ '_' :: '_' :: number →
          ¬ IsSiblingNumber number := by
      intro front number form isNumber
      rw [toList_lower] at form
      obtain ⟨base, whole⟩ := exists_base_of_lowerBetween_numbered isNumber form
      exact unnumbered base number whole isNumber
    rw [withoutSiblingNumber_of_no_number unnumbered,
      withoutSiblingNumber_of_no_number loweredUnnumbered]

end Numbers

namespace Record

/-! ## Records of a name -/

section OfName

variable {record : Record} {value : String}

theorem containsText_of_name (same : Text.lower record.name = Text.lower value) :
    record.containsText value false = true := by
  rw [containsText_plain_iff, ← Text.lower_eq_iff.mp same, searchableText]
  split
  · exact List.infix_rfl
  · have whole : (record.name ++ "\n" ++ record.description).toList =
        record.name.toList ++ '\n' :: record.description.toList := by
      simp
    rw [whole, Text.lowerBetween_divided Text.dividesWords_lineFeed]
    exact (List.prefix_append _ _).isInfix

theorem lower_baseName_of_name
    (same : Text.lower record.name = Text.lower value) :
    Text.lower record.baseName = Text.lower (withoutSiblingNumber value) := by
  rw [baseName, lower_withoutSiblingNumber, lower_withoutSiblingNumber, same]

end OfName

end Record

namespace Expr

section Names

/-- A record of a name contains the name, is a sibling under it, and has it as an ancestor, whatever
records are loaded. -/
theorem holds_of_name {record : Record} {value : String}
    {lineage : Option Lineage}
    (named : (property .name value).holds lineage record = true)
    (records : List Record) :
    (string value false).holds lineage record = true ∧
      (property .sibling value).holds lineage record = true ∧
      (property .ancestor value).holds (some (.ofRecords records)) record =
        true := by
  have same : Text.lower record.name = Text.lower value := by
    simpa [holds, Record.hasProperty] using named
  refine ⟨?_, ?_, ?_⟩
  · rw [holds_string]
    exact Record.containsText_of_name same
  · have sibling := Record.lower_baseName_of_name same
    simp [holds, Record.hasProperty, sibling]
  · simp [holds, Record.hasProperty, Lineage.hasAncestor, same]

theorem holds_of_name_light :
    (property .name "φως__2").holds none
      { Record.named "ΦΩΣ__2" with description := "ΕΔΩ" } = true ∧
    (string "φως__2" false).holds none
      { Record.named "ΦΩΣ__2" with description := "ΕΔΩ" } = true ∧
    (property .sibling "φως__2").holds none
      { Record.named "ΦΩΣ__2" with description := "ΕΔΩ" } = true ∧
    (property .ancestor "φως__2").holds (some (.ofRecords []))
      { Record.named "ΦΩΣ__2" with description := "ΕΔΩ" } = true := by
  have isNumber : IsSiblingNumber ['2'] :=
    ⟨List.cons_ne_nil _ _, List.forall_mem_singleton.mpr (by decide)⟩
  have capitals : "ΦΩΣ__2".toList =
      ['Φ', 'Ω', 'Σ'] ++ '_' :: '_' :: ['2'] := by decide
  have small : "φως__2".toList = ['φ', 'ω', 'ς'] ++ '_' :: '_' :: ['2'] := by
    decide
  have smallStays : Text.lowerBetween [] ['φ', 'ω', 'ς'] [] =
      ['φ', 'ω', 'ς'] := by
    rw [Text.lowerBetween_of_no_sigma (by decide)]
    decide +kernel
  have same : Text.lower "ΦΩΣ__2" = Text.lower "φως__2" := by
    rw [Text.lower_eq_iff, capitals, small, lowerBetween_numbered isNumber,
      lowerBetween_numbered isNumber, Text.lowerBetween_light, smallStays]
  have found : (property .name "φως__2").holds none
      { Record.named "ΦΩΣ__2" with description := "ΕΔΩ" } = true := by
    simp [holds, Record.hasProperty, Record.named, same]
  exact ⟨found, holds_of_name found []⟩

end Names

end Expr

end RecordQuery
