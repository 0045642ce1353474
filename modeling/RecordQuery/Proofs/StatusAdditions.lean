import RecordQuery.Expr.Matching

/-!
# Additions to a status

A status may be followed by a text in parentheses, by the mark of readiness, or by both. What is left
without these additions is trimmed and has no opening parenthesis behind a space, and each text of this
form is left of itself. The mark of readiness has such a parenthesis too, behind a dash, so a status
that ends in a dash can be taken for the beginning of the mark.
-/

namespace RecordQuery

open Text (IsTrimmed before dropEnding?)

/-- A text that can be left of a status. -/
structure IsBaseStatus (status : String) : Prop where
  trimmed : IsTrimmed status.toList
  noParenthesis : ¬ [' ', '('] <:+: status.toList

section Additions

variable {base addition status : String}

theorem isBaseStatus_withoutAdditions (status : String) :
    IsBaseStatus (withoutAdditions status) := by
  constructor
  · rw [withoutAdditions, String.toList_ofList]
    exact Text.isTrimmed_trim _
  · rw [withoutAdditions, String.toList_ofList]
    intro occurs
    exact Text.not_infix_before (by decide) _ (occurs.trans (Text.trim_infix _))

theorem withoutAdditions_of_unready {unready : List Char}
    (isBase : IsBaseStatus base)
    (dropped : (dropEnding? readyToMail status.toList).getD status.toList = unready)
    (first : before [' ', '('] unready = base.toList) :
    withoutAdditions status = base := by
  rw [withoutAdditions, dropped, first, Text.trim_of_isTrimmed isBase.trimmed,
    String.ofList_toList]

theorem readyToMail_eq_append :
    readyToMail =
      [' ', '-'] ++ ([' ', '('] ++ "!: READY TO MAIL)".toList) := by
  decide

theorem withoutAdditions_of_isBaseStatus (isBase : IsBaseStatus base) :
    withoutAdditions base = base := by
  have first := Text.before_of_not_infix isBase.noParenthesis
  refine withoutAdditions_of_unready isBase ?_ first
  cases dropped : dropEnding? readyToMail base.toList with
  | none => rfl
  | some left =>
      have whole := Text.dropEnding?_eq_some_iff.mp dropped
      rw [readyToMail_eq_append, ← List.append_assoc, ← List.append_assoc] at whole
      exact absurd ⟨_, _, whole.symm⟩ isBase.noParenthesis

theorem withoutAdditions_readyToMail (isBase : IsBaseStatus base) :
    withoutAdditions (base ++ String.ofList readyToMail) = base := by
  have first := Text.before_of_not_infix isBase.noParenthesis
  refine withoutAdditions_of_unready isBase ?_ first
  rw [String.toList_append, String.toList_ofList,
    Text.dropEnding?_eq_some_iff.mpr rfl]
  rfl

/-- The parenthesis behind a text that has none is the first one. -/
theorem before_parenthesis {text : List Char} (noParenthesis : ¬ [' ', '('] <:+: text)
    (rest : List Char) :
    before [' ', '('] (text ++ ([' ', '('] ++ rest)) = text := by
  have notInSpace : ¬ [' '] ++ ['('] <:+: text ++ [' '] :=
    Text.not_infix_append noParenthesis (by decide)
  exact Text.before_append (by decide) notInSpace rest

theorem toList_parenthesis (base addition : String) :
    (base ++ " (" ++ addition).toList =
      base.toList ++ ([' ', '('] ++ addition.toList) := by
  simp

theorem withoutAdditions_parenthesis_readyToMail (isBase : IsBaseStatus base)
    (addition : String) :
    withoutAdditions
      (base ++ " (" ++ addition ++ String.ofList readyToMail) = base := by
  have first := before_parenthesis isBase.noParenthesis addition.toList
  rw [← toList_parenthesis] at first
  refine withoutAdditions_of_unready isBase ?_ first
  rw [String.toList_append, String.toList_ofList,
    Text.dropEnding?_eq_some_iff.mpr rfl]
  rfl

/-- Whatever stands behind the parenthesis, the mark of readiness begins behind it too, unless the dash
of the mark ends the text in front. -/
theorem withoutAdditions_parenthesis (isBase : IsBaseStatus base)
    (noDash : ¬ [' ', '-'] <:+ base.toList) (addition : String) :
    withoutAdditions (base ++ " (" ++ addition) = base := by
  have first := before_parenthesis isBase.noParenthesis addition.toList
  rw [← toList_parenthesis] at first
  cases dropped : dropEnding? readyToMail (base ++ " (" ++ addition).toList with
  | none =>
      refine withoutAdditions_of_unready isBase ?_ first
      rw [dropped]
      rfl
  | some left =>
      have whole := Text.dropEnding?_eq_some_iff.mp dropped
      rw [whole] at first
      have unready : (dropEnding? readyToMail (base ++ " (" ++ addition).toList).getD
          (base ++ " (" ++ addition).toList = left := by
        rw [dropped]
        rfl
      refine withoutAdditions_of_unready isBase unready ?_
      by_cases occurs : [' ', '('] <:+: left
      · exact (Text.before_append_of_infix occurs readyToMail).symm.trans first
      · have notInDash : ¬ [' ', '('] <:+: left ++ [' ', '-'] := by
          have absent : ¬ [' '] ++ ['('] <:+: left := occurs
          exact Text.not_infix_append absent (by decide)
        rw [readyToMail_eq_append, ← List.append_assoc,
          before_parenthesis notInDash] at first
        exact absurd ⟨left, first⟩ noDash

end Additions

/-! ## Records -/

section Records

theorem holds_status_iff {value : String} {record : Record}
    {lineage : Option Lineage} :
    (Expr.property .status value).holds lineage record = true ↔
      value.toList.map Char.toLower =
        record.baseStatus.toList.map Char.toLower := by
  change (Text.lowerAscii record.baseStatus == Text.lowerAscii value) = true ↔ _
  rw [beq_iff_eq, Text.lowerAscii, Text.lowerAscii, String.ofList_inj, eq_comm]

/-- Whatever is added to a status, by a text in parentheses, by the mark of readiness or by both, its base
stays the same, and the status is asked for by the base in any case. The base of any status is its own
base. -/
theorem baseStatus_of_additions :
    (∀ base addition : String, IsTrimmed base.toList →
      ¬ [' ', '('] <:+: base.toList → ¬ [' ', '-'] <:+ base.toList →
        ∀ record : Record,
          record.status ∈ [base, base ++ " (" ++ addition,
            base ++ String.ofList readyToMail,
            base ++ " (" ++ addition ++ String.ofList readyToMail] →
          record.baseStatus = base ∧
          ∀ lineage value,
            (Expr.property .status value).holds lineage record = true ↔
              value.toList.map Char.toLower = base.toList.map Char.toLower) ∧
    ∀ record : Record,
      IsTrimmed record.baseStatus.toList ∧
      ¬ [' ', '('] <:+: record.baseStatus.toList ∧
      { record with status := record.baseStatus }.baseStatus = record.baseStatus := by
  constructor
  · intro base addition trimmed noParenthesis noDash record added
    have isBase : IsBaseStatus base := ⟨trimmed, noParenthesis⟩
    have same : record.baseStatus = base := by
      rw [Record.baseStatus]
      simp only [List.mem_cons, List.not_mem_nil, or_false] at added
      rcases added with status | status | status | status
      · rw [status, withoutAdditions_of_isBaseStatus isBase]
      · rw [status, withoutAdditions_parenthesis isBase noDash]
      · rw [status, withoutAdditions_readyToMail isBase]
      · rw [status, withoutAdditions_parenthesis_readyToMail isBase]
    refine ⟨same, fun lineage value => ?_⟩
    rw [holds_status_iff, same]
  · intro record
    have isBase := isBaseStatus_withoutAdditions record.status
    exact ⟨isBase.trimmed, isBase.noParenthesis,
      withoutAdditions_of_isBaseStatus isBase⟩

/-- The text in parentheses may hold the mark of readiness itself. -/
theorem baseStatus_of_additions_mailed :
    let record : Record := {
      name := "fix"
      status := "Mailed (x - (!: READY TO MAIL) - (!: READY TO MAIL)"
      filePath := "/p/x/x.gp" }
    record.baseStatus = "Mailed" ∧
    (Expr.property .status "MAILED").holds none record = true := by
  intro record
  have trimmed : IsTrimmed "Mailed".toList := by
    constructor
    · rintro c ⟨⟩
      rfl
    · rintro c ⟨⟩
      rfl
  obtain ⟨same, asked⟩ := baseStatus_of_additions.1 "Mailed" "x - (!: READY TO MAIL)"
    trimmed (by decide) (by decide) record (by decide)
  exact ⟨same, (asked none "MAILED").mpr (by decide)⟩

end Records

end RecordQuery
