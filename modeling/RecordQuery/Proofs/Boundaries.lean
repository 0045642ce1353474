import RecordQuery.Proofs.Sources

/-!
# Sources in front of other texts

What a source spells depends on the text behind it where a mark has to stand alone or a word has to end.
So a source stays one when more text is written behind the text that stands there. Where nothing stands
there, it stays one in front of a boundary, behind which no mark and no word goes on; and it stays one
anyway if it ends in a character behind which a lexeme begins, as an opening parenthesis does.
-/

namespace RecordQuery.Lexeme

/-! ## Writing on -/

section WritingOn

variable {source rest more : List Char} {lexeme : Lexeme}

theorem standsAlone_append (next : rest = [] → standsAlone more = true) :
    standsAlone (rest ++ more) = standsAlone rest := by
  cases rest with
  | nil => exact next rfl
  | cons c tail => rfl

theorem endsWord_append (next : rest = [] → standsAlone more = true)
    (ends : EndsWord rest) : EndsWord (rest ++ more) := by
  cases rest with
  | nil => exact endsWord_of_standsAlone (next rfl)
  | cons c tail =>
      intro d others equality
      cases equality
      exact ends c tail rfl

/-- A text goes on with nothing but a blank or a closing parenthesis. -/
theorem append_ne_cons (next : rest = [] → standsAlone more = true) {c : Char}
    (notAlone : standsAlone [c] = false) (differs : ∀ tail, rest ≠ c :: tail) :
    ∀ tail, rest ++ more ≠ c :: tail := by
  intro tail equality
  cases rest with
  | nil =>
      have alone := next rfl
      rw [List.nil_append] at equality
      rw [equality] at alone
      exact absurd (alone.symm.trans notAlone) (by decide)
  | cons head others =>
      have same : head = c := (List.cons.inj equality).1
      exact differs others (by rw [same])

/-- A negation is one whatever stands behind the next lexeme: its sign does not stand alone. -/
theorem Negates.append (negates : Negates rest) (more : List Char) :
    Negates (rest ++ more) := by
  obtain ⟨notAlone, noAbsence, noMark⟩ := negates
  cases rest with
  | nil => cases notAlone
  | cons c tail =>
      refine ⟨notAlone, fun asked others equality => ?_, fun others equality => ?_⟩
      · obtain ⟨rfl, rfl⟩ := List.cons.inj equality
        have tailNotAlone := noAbsence asked tail rfl
        cases tail with
        | nil => cases tailNotAlone
        | cons d behind => exact tailNotAlone
      · obtain ⟨rfl, same⟩ := List.cons.inj equality
        have tailNotAlone := noAbsence .errorSuffix tail rfl
        cases tail with
        | nil => cases tailNotAlone
        | cons d behind =>
            obtain ⟨rfl, _⟩ := List.cons.inj same
            exact noMark behind rfl

/-- A source stays one if more is written behind the text that stands behind it. Where nothing stands
there, it has to be a boundary. -/
theorem IsSource.append (written : IsSource source lexeme rest)
    (next : rest = [] → standsAlone more = true) :
    IsSource source lexeme (rest ++ more) := by
  have stillAlone : standsAlone rest = true →
      standsAlone (rest ++ more) = true := by
    rw [standsAlone_append next]
    exact id
  cases written with
  | openParen => exact .openParen
  | closeParen => exact .closeParen
  | string closed => exact .string closed
  | sensitiveString closed => exact .sensitiveString closed
  | mark asked => exact .mark asked
  | sign asked alone => exact .sign asked (stillAlone alone)
  | absenceMark asked alone => exact .absenceMark asked (stillAlone alone)
  | anySignal alone => exact .anySignal (stillAlone alone)
  | negation negates => exact .negation (negates.append more)
  | status known => exact .status known
  | sigil sigil word ends => exact .sigil sigil word (endsWord_append next ends)
  | property named word ends =>
      exact .property named word (endsWord_append next ends)
  | quotedProperty named closed => exact .quotedProperty named closed
  | word bare =>
      obtain ⟨starts, parts, ends, noColon, noQuote⟩ := bare
      exact .word ⟨starts, parts, endsWord_append next ends,
        append_ne_cons next (by decide) noColon,
        fun single => append_ne_cons next (by decide) (noQuote single)⟩

end WritingOn

/-! ## Texts behind which a lexeme begins -/

section Beginnings

variable {source rest more : List Char} {lexeme : Lexeme}

/-- A text is empty or ends in a blank or an opening parenthesis, so no lexeme goes on behind it. -/
def LetsBegin (text : List Char) : Prop :=
  ∀ front c, text = front ++ [c] → Text.isBlank c = true ∨ c = '('

theorem LetsBegin.of_append {front back : List Char}
    (lets : LetsBegin (front ++ back)) : LetsBegin back := by
  rintro inner c rfl
  exact lets (front ++ inner) c (List.append_assoc front inner [c]).symm

/-- Whether a character is neither blank nor an opening parenthesis. -/
def isInner (c : Char) : Bool :=
  !Text.isBlank c && c != '('

theorem not_letsBegin {text : List Char} (nonempty : text ≠ [])
    (inner : text.all isInner = true) : ¬ LetsBegin text := by
  intro lets
  have last := List.all_eq_true.mp inner _ (List.getLast_mem nonempty)
  rcases lets _ _ (List.dropLast_concat_getLast nonempty).symm with
    blank | opening
  · simp [isInner, blank] at last
  · simp [isInner, opening] at last

theorem IsWord.not_letsBegin {word : List Char} (isWord : IsWord word) :
    ¬ LetsBegin word := by
  refine Lexeme.not_letsBegin isWord.nonempty
    (List.all_eq_true.mpr fun c member => ?_)
  have part := isWord.parts c member
  have notOpening : c ≠ '(' := by
    rintro rfl
    exact absurd part (by decide)
  simp [isInner, not_isBlank_of_isWordPart part, notOpening]

theorem IsBareWord.isWord {word : List Char} (bare : IsBareWord word rest) :
    IsWord word := by
  obtain ⟨c, tail, rfl, _⟩ := bare.starts
  exact ⟨List.cons_ne_nil c tail, bare.parts⟩

/-- Where no lexeme goes on behind a text, the sources in it stay sources whatever is written on. -/
theorem IsSource.append_of_letsBegin (written : IsSource source lexeme rest)
    (lets : LetsBegin (source ++ rest)) (more : List Char) :
    IsSource source lexeme (rest ++ more) := by
  cases rest with
  | cons c tail => exact written.append fun empty => nomatch empty
  | nil =>
      rw [List.append_nil] at lets
      cases written with
      | openParen => exact .openParen
      | closeParen => exact .closeParen
      | string closed => exact .string closed
      | sensitiveString closed => exact .sensitiveString closed
      | mark asked => exact .mark asked
      | status known => exact .status known
      | quotedProperty named closed => exact .quotedProperty named closed
      | negation negates => cases negates.not_alone
      -- The other sources end in a sign or in a word.
      | sign asked =>
          cases asked <;> exact absurd lets (not_letsBegin (by decide) rfl)
      | absenceMark asked =>
          cases asked <;> exact absurd lets (not_letsBegin (by decide) rfl)
      | anySignal =>
          exact absurd lets (not_letsBegin (by decide) rfl)
      | @sigil sigil value _ word _ =>
          have value : LetsBegin ([sigil.sign] ++ value) := lets
          exact absurd value.of_append word.not_letsBegin
      | @property name value _ _ _ word _ =>
          rw [List.append_cons] at lets
          exact absurd lets.of_append word.not_letsBegin
      | word bare => exact absurd lets bare.isWord.not_letsBegin

/-- The lexemes of a text stay as they are when another one is written behind it: no lexeme goes on at the
end of the one, or at the beginning of the other. -/
def Joins (text more : List Char) : Prop :=
  standsAlone more = true ∨ LetsBegin text

theorem Joins.of_append {front back : List Char}
    (joins : Joins (front ++ back) more) : Joins back more :=
  joins.imp_right LetsBegin.of_append

theorem IsSource.append_of_joins (written : IsSource source lexeme rest)
    (joins : Joins (source ++ rest) more) :
    IsSource source lexeme (rest ++ more) := by
  rcases joins with alone | lets
  · exact written.append fun _ => alone
  · exact written.append_of_letsBegin lets more

end Beginnings

/-! ## Cutting a text -/

section Cutting

variable {source rest behind : List Char} {lexeme : Lexeme}

theorem standsAlone_of_append (alone : standsAlone (rest ++ behind) = true) :
    standsAlone rest = true := by
  cases rest with
  | nil => rfl
  | cons c tail => exact alone

theorem endsWord_of_append (ends : EndsWord (rest ++ behind)) :
    EndsWord rest := by
  rintro c tail rfl
  exact ends c (tail ++ behind) rfl

/-- A source stays one if the text behind it is cut, unless it is a negation. -/
theorem IsSource.of_append (written : IsSource source lexeme (rest ++ behind)) :
    source = ['!'] ∨ IsSource source lexeme rest := by
  cases written with
  | openParen => exact Or.inr .openParen
  | closeParen => exact Or.inr .closeParen
  | string closed => exact Or.inr (.string closed)
  | sensitiveString closed => exact Or.inr (.sensitiveString closed)
  | mark asked => exact Or.inr (.mark asked)
  | sign asked alone => exact Or.inr (.sign asked (standsAlone_of_append alone))
  | absenceMark asked alone =>
      exact Or.inr (.absenceMark asked (standsAlone_of_append alone))
  | anySignal alone => exact Or.inr (.anySignal (standsAlone_of_append alone))
  | negation negates => exact Or.inl rfl
  | status known => exact Or.inr (.status known)
  | sigil sigil word ends =>
      exact Or.inr (.sigil sigil word (endsWord_of_append ends))
  | property named word ends =>
      exact Or.inr (.property named word (endsWord_of_append ends))
  | quotedProperty named closed => exact Or.inr (.quotedProperty named closed)
  | word bare =>
      obtain ⟨starts, parts, ends, noColon, noQuote⟩ := bare
      refine Or.inr (.word ⟨starts, parts, endsWord_of_append ends, ?_, ?_⟩)
      · rintro tail rfl
        exact noColon (tail ++ behind) rfl
      · rintro single tail rfl
        exact noQuote single (tail ++ behind) rfl

end Cutting

end RecordQuery.Lexeme
