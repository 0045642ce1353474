import RecordQuery.Text.Ascii
import RecordQuery.Text.Style

/-!
# Texts without styles

What is seen of a text: the text without the escape sequences that switch styles on and off. A sequence is
an escape character, an opening bracket, numbers with semicolons between them, and the letter m.
-/

namespace RecordQuery.Text

def escape : Char := '\x1b'

/-- Whether a character can stand in the numbers of an escape sequence. -/
def isStyleCode (c : Char) : Bool :=
  isAsciiDigit c || c == ';'

/-- What stands behind the escape sequence at the beginning of a text, if there is one. -/
def behindSequence? : List Char → Option (List Char)
  | '\x1b' :: '[' :: rest =>
      match rest.dropWhile isStyleCode with
      | 'm' :: behind => some behind
      | _ => none
  | _ => none

section Sequences

variable {text behind code : List Char}

theorem behindSequence?_eq_some_iff :
    behindSequence? text = some behind ↔
      ∃ code, (∀ c ∈ code, isStyleCode c = true) ∧
        text = Style.sequence code ++ behind := by
  constructor
  · intro found
    rw [behindSequence?.eq_def] at found
    split at found
    · next rest =>
        split at found
        · next last behind' divided =>
            cases found
            refine ⟨rest.takeWhile isStyleCode, fun c member => ?_, ?_⟩
            · exact List.all_eq_true.mp List.all_takeWhile c member
            · have whole :=
                List.takeWhile_append_dropWhile (p := isStyleCode) (l := rest)
              rw [divided] at whole
              simp [Style.sequence, whole]
        · cases found
    · cases found
  · rintro ⟨code, codes, rfl⟩
    have dropped : (code ++ 'm' :: behind).dropWhile isStyleCode =
        'm' :: behind := by
      rw [List.dropWhile_append_of_pos codes]
      rfl
    simp [Style.sequence, behindSequence?, dropped]

theorem length_lt_of_behindSequence?
    (found : behindSequence? text = some behind) :
    behind.length < text.length := by
  obtain ⟨code, _, rfl⟩ := behindSequence?_eq_some_iff.mp found
  simp only [Style.sequence, List.length_append, List.length_cons]
  omega

theorem behindSequence?_cons_of_ne {c : Char} (noEscape : c ≠ escape)
    (rest : List Char) : behindSequence? (c :: rest) = none := by
  cases found : behindSequence? (c :: rest) with
  | none => rfl
  | some behind =>
      obtain ⟨code, _, whole⟩ := behindSequence?_eq_some_iff.mp found
      exact absurd (List.cons.inj whole).1 noEscape

end Sequences

/-- A text without its escape sequences. -/
def unstyled (text : List Char) : List Char :=
  match text with
  | c :: rest =>
      match found : behindSequence? (c :: rest) with
      | some behind =>
          have _shorter := length_lt_of_behindSequence? found
          unstyled behind
      | none => c :: unstyled rest
  | [] => []
termination_by text.length
decreasing_by
  · exact _shorter
  · exact Nat.lt_succ_self _

section Unstyled

variable {text : List Char}

@[simp] theorem unstyled_nil : unstyled [] = [] := by
  rw [unstyled]

theorem unstyled_of_behindSequence? {behind : List Char}
    (found : behindSequence? text = some behind) :
    unstyled text = unstyled behind := by
  cases text with
  | nil => cases found
  | cons c rest =>
      rw [unstyled]
      split
      · next other found' =>
          cases found'.symm.trans found
          rfl
      · next none =>
          cases none.symm.trans found

theorem unstyled_cons {c : Char} {rest : List Char}
    (plain : behindSequence? (c :: rest) = none) :
    unstyled (c :: rest) = c :: unstyled rest := by
  rw [unstyled]
  split
  · next found => cases found.symm.trans plain
  · rfl

theorem unstyled_append_of_plain (plain : escape ∉ text) (rest : List Char) :
    unstyled (text ++ rest) = text ++ unstyled rest := by
  induction text with
  | nil => rfl
  | cons c text inductionHypothesis =>
      have ⟨notFirst, notBehind⟩ := List.ne_and_not_mem_of_not_mem_cons plain
      rw [List.cons_append,
        unstyled_cons (behindSequence?_cons_of_ne (Ne.symm notFirst) _),
        inductionHypothesis notBehind, List.cons_append]

theorem unstyled_sequence_append {code : List Char}
    (codes : code.all isStyleCode = true) (rest : List Char) :
    unstyled (Style.sequence code ++ rest) = unstyled rest :=
  unstyled_of_behindSequence? (behindSequence?_eq_some_iff.mpr
    ⟨code, List.all_eq_true.mp codes, rfl⟩)

end Unstyled

/-! ## What a text shows -/

/-- Whatever follows it, a text shows another one. -/
def Shows (styled plain : List Char) : Prop :=
  ∀ rest, unstyled (styled ++ rest) = plain ++ unstyled rest

namespace Shows

variable {styled plain styled' plain' : List Char}

theorem unstyled_eq (shows : Shows styled plain) : unstyled styled = plain := by
  simpa using shows []

theorem of_plain (noEscape : escape ∉ plain) : Shows plain plain :=
  unstyled_append_of_plain noEscape

theorem append (first : Shows styled plain) (second : Shows styled' plain') :
    Shows (styled ++ styled') (plain ++ plain') := by
  intro rest
  rw [List.append_assoc, first, second, List.append_assoc]

theorem apply (shows : Shows styled plain) (style : Style) :
    Shows (style.apply styled) plain := by
  intro rest
  have on : style.onCode.all isStyleCode = true := by cases style <;> rfl
  have off : style.offCode.all isStyleCode = true := by cases style <;> rfl
  rw [Style.apply, List.append_assoc, List.append_assoc,
    unstyled_sequence_append on, shows, unstyled_sequence_append off]

theorem applyIf (shows : Shows styled plain) (style : Style) (colors : Bool) :
    Shows (style.applyIf colors styled) plain := by
  cases colors with
  | false => exact shows
  | true => exact shows.apply style

end Shows

end RecordQuery.Text
