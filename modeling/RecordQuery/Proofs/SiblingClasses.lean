import RecordQuery.Proofs.NameMatches

/-!
# Classes of siblings

The number of a sibling is dropped from the end of a name, and it is dropped once. Names are siblings if
the lowercase forms of what is left agree, so to be siblings is an equivalence of names. All names that
are numbered from one base are in the same class, and the base itself is among them unless it has a
number of its own.
-/

namespace RecordQuery

open Text (lower lowerBetween)

/-- Whether a name ends in the number of a sibling. -/
def HasSiblingNumber (name : String) : Prop :=
  ∃ base number : String,
    IsSiblingNumber number.toList ∧ name = base ++ "__" ++ number

/-- Whether to ask for the siblings of `value` finds the records of a name, whatever is loaded. -/
def Siblings (name value : String) : Prop :=
  ∀ (lineage : Option Lineage) (record : Record), record.name = name →
    (Expr.property .sibling value).holds lineage record = true

/-! ## Bases -/

section Bases

variable {name number : String}

theorem toList_numbered (base number : String) :
    (base ++ "__" ++ number).toList =
      base.toList ++ '_' :: '_' :: number.toList := by
  simp

/-- Of several numbers the last one is dropped, and of a row of underscores the last two. -/
theorem withoutSiblingNumber_numbered
    (isNumber : IsSiblingNumber number.toList) (base : String) :
    withoutSiblingNumber (base ++ "__" ++ number) = base := by
  rw [withoutSiblingNumber_of_number isNumber (toList_numbered base number),
    String.ofList_toList]

theorem withoutSiblingNumber_of_not_hasSiblingNumber
    (unnumbered : ¬ HasSiblingNumber name) :
    withoutSiblingNumber name = name := by
  apply withoutSiblingNumber_of_no_number
  intro base number whole isNumber
  apply unnumbered
  refine ⟨String.ofList base, String.ofList number, ?_, ?_⟩
  · simpa using isNumber
  · rw [← String.toList_inj, toList_numbered, whole]
    simp

/-- The lowercase form of a base is shorter than that of a name that is numbered from it. -/
theorem lower_withoutSiblingNumber_eq_iff :
    lower (withoutSiblingNumber name) = lower name ↔
      ¬ HasSiblingNumber name := by
  constructor
  · rintro same ⟨base, number, isNumber, rfl⟩
    rw [withoutSiblingNumber_numbered isNumber, Text.lower_eq_iff,
      toList_numbered, lowerBetween_numbered isNumber] at same
    have lengths := congrArg List.length same
    simp at lengths
  · intro unnumbered
    rw [withoutSiblingNumber_of_not_hasSiblingNumber unnumbered]

end Bases

/-! ## Siblings -/

section Classes

variable {name value : String} {record : Record} {lineage : Option Lineage}

theorem holds_sibling_iff :
    (Expr.property .sibling value).holds lineage record = true ↔
      lower (withoutSiblingNumber record.name) =
        lower (withoutSiblingNumber value) := by
  simp [Expr.holds, Record.hasProperty, Record.baseName]

theorem siblings_iff :
    Siblings name value ↔
      lower (withoutSiblingNumber name) =
        lower (withoutSiblingNumber value) := by
  constructor
  · intro siblings
    have found := siblings none (Record.named name) rfl
    rw [holds_sibling_iff] at found
    exact found
  · rintro same lineage record rfl
    exact holds_sibling_iff.mpr same

theorem siblings_equivalence : Equivalence Siblings := by
  constructor
  · exact fun name => siblings_iff.mpr rfl
  · intro name value siblings
    exact siblings_iff.mpr (siblings_iff.mp siblings).symm
  · intro name between value first second
    exact siblings_iff.mpr
      ((siblings_iff.mp first).trans (siblings_iff.mp second))

/-- A number behind any base is dropped, and nothing else is. So the names that are numbered from one base
are siblings of each other, and the base is a sibling of theirs just if it has no number itself. -/
theorem siblings_of_numbered :
    (∀ base number : String, IsSiblingNumber number.toList →
      withoutSiblingNumber (base ++ "__" ++ number) = base) ∧
    (∀ name, ¬ HasSiblingNumber name → withoutSiblingNumber name = name) ∧
    (∀ base number other : String, IsSiblingNumber number.toList →
      IsSiblingNumber other.toList →
      ∀ lineage record, record.name = base ++ "__" ++ number →
        (Expr.property .sibling (base ++ "__" ++ other)).holds lineage record =
          true) ∧
    (∀ lineage record value,
      (Expr.property .sibling value).holds lineage record = true ↔
        Siblings record.name value) ∧
    Equivalence Siblings ∧
    ∀ base number : String, IsSiblingNumber number.toList →
      ∀ lineage record, record.name = base →
        ((Expr.property .sibling (base ++ "__" ++ number)).holds lineage record =
            true ↔
          ¬ HasSiblingNumber base) := by
  refine ⟨?_, ?_, ?_, ?_, siblings_equivalence, ?_⟩
  · exact fun base number isNumber => withoutSiblingNumber_numbered isNumber base
  · exact fun name => withoutSiblingNumber_of_not_hasSiblingNumber
  · intro base number other isNumber isOther lineage record named
    rw [holds_sibling_iff, named, withoutSiblingNumber_numbered isNumber,
      withoutSiblingNumber_numbered isOther]
  · intro lineage record value
    rw [holds_sibling_iff, siblings_iff]
  · rintro base number isNumber lineage record rfl
    rw [holds_sibling_iff, withoutSiblingNumber_numbered isNumber,
      lower_withoutSiblingNumber_eq_iff]

/-- A third underscore belongs to the base, and a numbered base is no sibling of the names numbered from
it. -/
theorem siblings_of_numbered_twice :
    IsSiblingNumber "12".toList ∧
    withoutSiblingNumber "fix__1___12" = "fix__1_" ∧
    (Expr.property .sibling "fix__1___7").holds none
      (Record.named "fix__1___12") = true ∧
    (Expr.property .sibling "fix__1__12").holds none
      (Record.named "fix__1") = false := by
  have twelve : IsSiblingNumber "12".toList :=
    ⟨by decide, List.all_eq_true.mp (by decide)⟩
  have seven : IsSiblingNumber "7".toList :=
    ⟨by decide, List.all_eq_true.mp (by decide)⟩
  have one : IsSiblingNumber "1".toList :=
    ⟨by decide, List.all_eq_true.mp (by decide)⟩
  obtain ⟨bases, _, numbered, _, _, byBase⟩ := siblings_of_numbered
  refine ⟨twelve, bases "fix__1_" "12" twelve, ?_, ?_⟩
  · exact numbered "fix__1_" "12" "7" twelve seven none _ rfl
  · have asked := byBase "fix__1" "12" twelve none (Record.named "fix__1") rfl
    have hasNumber : HasSiblingNumber "fix__1" := ⟨"fix", "1", one, rfl⟩
    exact eq_false_of_ne_true fun found => asked.mp found hasNumber

end Classes

end RecordQuery
