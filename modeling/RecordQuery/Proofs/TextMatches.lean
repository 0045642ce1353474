import RecordQuery.Expr.Matching
import RecordQuery.Proofs.Lowering

/-!
# Texts with and without regard to case

A text that occurs in a record as it is written should be found without regard to case too. The lowercase
form of the record is searched for that of the text, so this fails where the two disagree on a capital
sigma: at an edge of the text it has one small form there, and another inside of a longer word. Such
sigmas are the only exception, and an occurrence of whole words is found even with them.
-/

namespace RecordQuery

namespace Text

/-! ## Loose sigmas -/

section LooseSigmas

/-- Whether a text behind `left`, the last of which comes first, has a capital sigma that may be final or
not: one at the end of a word that could go on behind the text, or one that would end a word if this had
begun in front of `left`. -/
def hasLooseSigmaBehind (left : List Char) : List Char → Bool
  | [] => false
  | c :: rest =>
      (c == 'Σ' && (meetsCased left && isSeenThrough rest ||
        isSeenThrough left && !meetsCased rest)) ||
        hasLooseSigmaBehind (c :: left) rest

/-- Whether the small form of some capital sigma in a text depends on what stands around the text. -/
def hasLooseSigma (text : String) : Bool :=
  hasLooseSigmaBehind [] text.toList

variable {left rest text : List Char}

theorem lowerAt_of_firm
    (firm : (meetsCased left && isSeenThrough rest ||
      isSeenThrough left && !meetsCased rest) = false)
    (before after : List Char) :
    lowerAt (left ++ before) 'Σ' (rest ++ after) = lowerAt left 'Σ' rest := by
  simp only [Bool.or_eq_false_iff, Bool.and_eq_false_imp,
    Bool.not_eq_false'] at firm
  obtain ⟨notEnding, notBeginning⟩ := firm
  have sameBehind (blocked : isSeenThrough rest = false) :
      meetsCased (rest ++ after) = meetsCased rest :=
    meetsCased_append_of_not_isSeenThrough blocked after
  by_cases seenThrough : isSeenThrough left = true
  · have goesOn : meetsCased rest = true := notBeginning seenThrough
    have blocked : isSeenThrough rest = false := by
      refine eq_false_of_ne_true fun seenBehind => ?_
      rw [meetsCased_of_isSeenThrough seenBehind] at goesOn
      cases goesOn
    simp [lowerAt, sameBehind blocked, goesOn]
  · have sameBefore : meetsCased (left ++ before) = meetsCased left :=
      meetsCased_append_of_not_isSeenThrough (eq_false_of_ne_true seenThrough)
        before
    by_cases letter : meetsCased left = true
    · simp [lowerAt, sameBefore, sameBehind (notEnding letter)]
    · simp [lowerAt, sameBefore, letter]

/-- Without loose sigmas a text has the same form wherever it stands. -/
theorem lowerBetween_of_firm
    (firm : hasLooseSigmaBehind left text = false)
    (before after : List Char) :
    lowerBetween (left ++ before) text after = lowerBetween left text [] := by
  induction text generalizing left with
  | nil => rfl
  | cons c rest inductionHypothesis =>
      obtain ⟨firmHere, firmBehind⟩ := Bool.or_eq_false_iff.mp firm
      have behind := inductionHypothesis firmBehind
      rw [List.cons_append] at behind
      rw [lowerBetween, lowerBetween, behind, List.append_nil]
      congr 1
      by_cases sigma : c = 'Σ'
      · subst sigma
        apply lowerAt_of_firm
        simpa using firmHere
      · rw [lowerAt_of_ne_sigma sigma, lowerAt_of_ne_sigma sigma]

theorem exists_split_of_loose
    (loose : hasLooseSigmaBehind left text = true) :
    ∃ initial rest, text = initial ++ 'Σ' :: rest ∧
      (meetsCased (initial.reverse ++ left) = true ∧
          isSeenThrough rest = true ∨
        isSeenThrough (initial.reverse ++ left) = true ∧
          meetsCased rest = false) := by
  induction text generalizing left with
  | nil => cases loose
  | cons c rest inductionHypothesis =>
      rcases Bool.or_eq_true_iff.mp loose with here | further
      · obtain ⟨sigma, looseHere⟩ := Bool.and_eq_true_iff.mp here
        obtain rfl := beq_iff_eq.mp sigma
        exact ⟨[], rest, rfl, by simpa using looseHere⟩
      · obtain ⟨initial, others, rfl, looseThere⟩ := inductionHypothesis further
        exact ⟨c :: initial, others, rfl, by simpa using looseThere⟩

end LooseSigmas

/-! ## Surroundings that change a sigma -/

section Surroundings

/-- With one of its characters replaced, a text is not found again among others. -/
theorem not_infix_of_replaced {old new : Char} (differs : new ≠ old)
    (initial rest : List Char) {front back : List Char}
    (notInFront : old ∉ front) (notBehind : old ∉ back) :
    ¬ (initial ++ old :: rest) <:+:
      (front ++ (initial ++ new :: rest) ++ back) := by
  intro found
  have counted := found.sublist.count_le old
  simp only [List.count_append, List.count_cons_self,
    List.count_cons_of_ne differs, List.count_eq_zero_of_not_mem notInFront,
    List.count_eq_zero_of_not_mem notBehind] at counted
  omega

variable {initial rest : List Char}

theorem lowerBetween_omega (left right : List Char) :
    lowerBetween left ['Ω'] right = ['ω'] := by
  have small : lowerLetter 'Ω' = ['ω'] := by decide +kernel
  rw [lowerBetween, lowerAt_of_ne_sigma (by decide), small]
  rfl

/-- A final sigma is no longer final where the word goes on behind the text. -/
theorem not_infix_before_letter (letter : meetsCased initial.reverse = true)
    (seenThrough : isSeenThrough rest = true) :
    ¬ lowerBetween [] (initial ++ 'Σ' :: rest) [] <:+:
      lowerBetween [] ([] ++ (initial ++ 'Σ' :: rest) ++ ['Ω']) [] := by
  have noSigma := no_sigma_of_isSeenThrough seenThrough
  have final : lowerAt initial.reverse 'Σ' rest = ['ς'] := by
    simp [lowerAt, letter, meetsCased_of_isSeenThrough seenThrough]
  have small : lowerAt initial.reverse 'Σ' (rest ++ ['Ω']) = ['σ'] := by
    rw [lowerAt, meetsCased_append_of_isSeenThrough seenThrough,
      showsLetter_omega.meetsCased_cons]
    simp
  have form (right : List Char) :
      lowerBetween [] (initial ++ 'Σ' :: rest) right =
        lowerBetween [] initial ['Σ'] ++
          (lowerAt initial.reverse 'Σ' (rest ++ right) ++
            rest.flatMap lowerLetter) := by
    rw [lowerBetween_sigma, lowerBetween_of_no_sigma noSigma, List.append_nil]
  have replaced := not_infix_of_replaced (show 'σ' ≠ 'ς' by decide)
    (lowerBetween [] initial ['Σ']) (rest.flatMap lowerLetter)
    (show 'ς' ∉ [] by simp) (show 'ς' ∉ ['ω'] by decide)
  rw [List.nil_append, lowerBetween_append _ _ ['Ω'], form, form,
    lowerBetween_omega, List.append_nil, List.append_nil, final, small]
  exact replaced

/-- A sigma that begins a word is final where the word has begun in front of the text. -/
theorem not_infix_behind_letter (seenThrough : isSeenThrough initial = true)
    (ends : meetsCased rest = false) :
    ¬ lowerBetween [] (initial ++ 'Σ' :: rest) [] <:+:
      lowerBetween [] (['Ω'] ++ (initial ++ 'Σ' :: rest) ++ []) [] := by
  have noSigma := no_sigma_of_isSeenThrough seenThrough
  have seenBack : isSeenThrough initial.reverse = true :=
    (isSeenThrough_reverse initial).trans seenThrough
  have small : lowerAt initial.reverse 'Σ' rest = ['σ'] := by
    simp [lowerAt, meetsCased_of_isSeenThrough seenBack]
  have final : lowerAt (initial.reverse ++ ['Ω']) 'Σ' rest = ['ς'] := by
    rw [lowerAt, meetsCased_append_of_isSeenThrough seenBack,
      showsLetter_omega.meetsCased_cons, ends]
    simp
  have form (left : List Char) :
      lowerBetween left (initial ++ 'Σ' :: rest) [] =
        initial.flatMap lowerLetter ++
          (lowerAt (initial.reverse ++ left) 'Σ' rest ++
            lowerBetween ['Σ'] rest []) := by
    rw [lowerBetween_sigma, lowerBetween_of_no_sigma noSigma, List.append_nil]
  have replaced := not_infix_of_replaced (show 'ς' ≠ 'σ' by decide)
    (initial.flatMap lowerLetter) (lowerBetween ['Σ'] rest [])
    (show 'σ' ∉ ['ω'] by decide) (show 'σ' ∉ [] by simp)
  rw [List.append_nil, lowerBetween_append _ ['Ω'], lowerBetween_omega, form,
    form, List.append_nil, List.reverse_singleton, List.append_nil, final,
    small]
  rw [List.append_nil] at replaced
  exact replaced

/-- A text with a loose sigma has surroundings in which its own lowercase form is not found. -/
theorem exists_surroundings_of_loose {value : List Char}
    (loose : hasLooseSigmaBehind [] value = true) :
    ∃ before after, ¬ lowerBetween [] value [] <:+:
      lowerBetween [] (before ++ value ++ after) [] := by
  obtain ⟨initial, rest, rfl, looseHere⟩ := exists_split_of_loose loose
  rw [List.append_nil, isSeenThrough_reverse] at looseHere
  rcases looseHere with ⟨letter, seenThrough⟩ | ⟨seenThrough, ends⟩
  · exact ⟨[], ['Ω'], not_infix_before_letter letter seenThrough⟩
  · exact ⟨['Ω'], [], not_infix_behind_letter seenThrough ends⟩

end Surroundings

/-! ## Forms within a longer text -/

section Within

theorem infix_of_occurrence (before value after : List Char) :
    lowerBetween before.reverse value after <:+:
      lowerBetween [] (before ++ value ++ after) [] := by
  rw [lowerBetween_append, lowerBetween_append]
  simp only [List.append_nil]
  exact List.infix_append _ _ _

theorem lowerBetween_light :
    lowerBetween [] ['Φ', 'Ω', 'Σ'] [] = ['φ', 'ω', 'ς'] := by
  have final : lowerAt ['Ω', 'Φ'] 'Σ' [] = ['ς'] := by
    have letter := showsLetter_omega.meetsCased_cons ['Φ']
    have nothing : meetsCased [] = false := rfl
    simp [lowerAt, letter, nothing]
  have spelled : ['Φ', 'Ω', 'Σ'] = ['Φ', 'Ω'] ++ 'Σ' :: [] := rfl
  rw [spelled, lowerBetween_of_lone_sigma (by decide) (by decide)]
  simp only [List.reverse_cons, List.reverse_nil, List.nil_append,
    List.cons_append, final]
  decide +kernel

end Within

end Text

/-! ## Records with a text -/

namespace Record

section Texts

variable {record : Record} {value : String}

theorem containsText_sensitive_iff :
    record.containsText value true = true ↔
      value.toList <:+: record.searchableText.toList := by
  simp only [containsText, if_true, Text.occursIn_iff]

theorem containsText_plain_iff :
    record.containsText value false = true ↔
      Text.lowerBetween [] value.toList [] <:+:
        Text.lowerBetween [] record.searchableText.toList [] := by
  simp only [containsText, Bool.false_eq_true, if_false, Text.occursIn_iff,
    Text.toList_lower]

/-- An occurrence in which the sigmas of a text have their own forms is found without regard to case. -/
theorem containsText_of_same_form (before after : List Char)
    (occurs : record.searchableText.toList = before ++ value.toList ++ after)
    (same : Text.lowerBetween before.reverse value.toList after =
      Text.lowerBetween [] value.toList []) :
    record.containsText value false = true := by
  rw [containsText_plain_iff, occurs, ← same]
  exact Text.infix_of_occurrence before value.toList after

theorem containsText_of_firm (firm : Text.hasLooseSigma value = false)
    (found : record.containsText value true = true) :
    record.containsText value false = true := by
  obtain ⟨before, after, occurs⟩ := containsText_sensitive_iff.mp found
  apply containsText_of_same_form before after occurs.symm
  exact Text.lowerBetween_of_firm firm before.reverse after

/-- A record of which only the name matters. -/
def named (name : String) : Record :=
  { name, status := "Drafted", filePath := "" }

theorem searchableText_named (name : String) :
    (named name).searchableText = name := rfl

theorem exists_missed_of_loose (loose : Text.hasLooseSigma value = true) :
    ∃ record : Record, record.containsText value true = true ∧
      record.containsText value false = false := by
  obtain ⟨before, after, missed⟩ := Text.exists_surroundings_of_loose loose
  refine ⟨named (String.ofList (before ++ value.toList ++ after)), ?_, ?_⟩
  · rw [containsText_sensitive_iff, searchableText_named, String.toList_ofList]
    exact List.infix_append before value.toList after
  · rw [← Bool.not_eq_true, containsText_plain_iff, searchableText_named,
      String.toList_ofList]
    exact missed

end Texts

end Record

namespace Expr

section Sensitive

open Record

theorem holds_string (value : String) (caseSensitive : Bool)
    (lineage : Option Lineage) (record : Record) :
    (string value caseSensitive).holds lineage record =
      record.containsText value caseSensitive := by
  rw [string, holds, Signals.first?_quiet]

/-- What is found with regard to case is found without for all records, just if the text has no loose
sigma. With loose sigmas, it is found at least where no word goes on beyond an end of the text. -/
theorem holds_string_of_sensitive (value : String) :
    (Text.hasLooseSigma value = false ↔
      ∀ lineage record, (string value true).holds lineage record = true →
        (string value false).holds lineage record = true) ∧
    ∀ lineage (record : Record) (before after : String),
      record.searchableText = before ++ value ++ after →
      Text.meetsCased before.toList.reverse = false →
      Text.meetsCased after.toList = false →
        (string value false).holds lineage record = true := by
  refine ⟨⟨?_, ?_⟩, ?_⟩
  · intro firm lineage record found
    rw [holds_string] at found ⊢
    exact containsText_of_firm firm found
  · intro kept
    refine eq_false_of_ne_true fun loose => ?_
    obtain ⟨record, found, missed⟩ := exists_missed_of_loose loose
    have foundPlain := kept none record
    rw [holds_string, holds_string, missed] at foundPlain
    cases foundPlain found
  · intro lineage record before after occurs endsBefore endsAfter
    rw [holds_string]
    apply containsText_of_same_form before.toList after.toList
    · rw [occurs, String.toList_append, String.toList_append]
    · exact Text.lowerBetween_congr endsBefore endsAfter value.toList

theorem holds_string_of_sensitive_light :
    Text.hasLooseSigma "ΩΣΦ" = false ∧
    (string "ΩΣΦ" true).holds none (named "ΦΩΣΦΟΡΟ") = true ∧
    (string "ΩΣΦ" false).holds none (named "ΦΩΣΦΟΡΟ") = true ∧
    Text.hasLooseSigma "ΦΩΣ" = true ∧
    (string "ΦΩΣ" false).holds none (named "ΤΟ ΦΩΣ ΕΔΩ") = true := by
  have omega := Text.showsLetter_omega
  have phi := Text.showsLetter_phi
  have firm : Text.hasLooseSigma "ΩΣΦ" = false := by
    simp [Text.hasLooseSigma, Text.hasLooseSigmaBehind, phi.isSeenThrough_cons,
      omega.isSeenThrough_cons]
  have loose : Text.hasLooseSigma "ΦΩΣ" = true := by
    simp [Text.hasLooseSigma, Text.hasLooseSigmaBehind, omega.meetsCased_cons,
      Text.isSeenThrough]
  have found : (string "ΩΣΦ" true).holds none (named "ΦΩΣΦΟΡΟ") = true := by
    rw [holds_string, containsText_sensitive_iff, searchableText_named]
    exact ⟨['Φ'], ['Ο', 'Ρ', 'Ο'], by simp⟩
  have space := Text.dividesWords_space.meetsCased_cons
  have before : Text.meetsCased "ΤΟ ".toList.reverse = false := by
    simpa using space ['Ο', 'Τ']
  have after : Text.meetsCased " ΕΔΩ".toList = false := by
    simpa using space ['Ε', 'Δ', 'Ω']
  refine ⟨firm, found, ?_, loose, ?_⟩
  · exact (holds_string_of_sensitive "ΩΣΦ").1.mp firm none _ found
  · exact (holds_string_of_sensitive "ΦΩΣ").2 none (named "ΤΟ ΦΩΣ ΕΔΩ") "ΤΟ "
      " ΕΔΩ" rfl before after

/-- A word is not found without regard to case in a longer one that goes on behind its final sigma. -/
theorem sensitive_only_at_loose_sigma :
    (string "ΦΩΣ" true).holds none (named "ΦΩΣΦΟΡΟ") = true ∧
    (string "ΦΩΣ" false).holds none (named "ΦΩΣΦΟΡΟ") = false := by
  have phosphorus :
      Text.lowerBetween [] (['Φ', 'Ω'] ++ 'Σ' :: ['Φ', 'Ο', 'Ρ', 'Ο']) [] =
        ['φ', 'ω', 'σ', 'φ', 'ο', 'ρ', 'ο'] := by
    have small : Text.lowerAt ['Ω', 'Φ'] 'Σ' ['Φ', 'Ο', 'Ρ', 'Ο'] = ['σ'] := by
      have letter := Text.showsLetter_phi.meetsCased_cons ['Ο', 'Ρ', 'Ο']
      simp [Text.lowerAt, letter]
    rw [Text.lowerBetween_of_lone_sigma (by decide) (by decide)]
    simp only [List.reverse_cons, List.reverse_nil, List.nil_append,
      List.cons_append, small]
    decide +kernel
  have spelledLight : "ΦΩΣ".toList = ['Φ', 'Ω', 'Σ'] := by decide
  have spelledPhosphorus : "ΦΩΣΦΟΡΟ".toList =
      ['Φ', 'Ω'] ++ 'Σ' :: ['Φ', 'Ο', 'Ρ', 'Ο'] := by
    decide
  constructor
  · rw [holds_string, containsText_sensitive_iff, searchableText_named]
    exact ⟨[], ['Φ', 'Ο', 'Ρ', 'Ο'], by simp⟩
  · rw [holds_string, ← Bool.not_eq_true, containsText_plain_iff,
      searchableText_named, spelledLight, spelledPhosphorus, Text.lowerBetween_light,
      phosphorus]
    decide

end Sensitive

end Expr

end RecordQuery
