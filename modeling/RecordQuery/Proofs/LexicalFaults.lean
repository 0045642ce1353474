import RecordQuery.Proofs.Concatenation
import RecordQuery.Proofs.ReadingOn

/-!
# The lexeme in which a fault lies

The tokens of a query stop at the first fault. The fault lies in a lexeme: the query up to where this
lexeme begins has tokens by itself, and from there on the same fault is found at once. Cutting a query
can change what its last lexemes are, since an exclamation mark at the end is a mark and no negation, but
it makes no fault.
-/

namespace RecordQuery

namespace Lexeme

/-! ## Texts without faults -/

section Faultless

/-- A text has tokens. -/
def Faultless (text : List Char) : Prop :=
  ∃ tokens, (Cursor.start text).tokens = .ok tokens

variable {source text rest behind : List Char} {lexeme : Lexeme}

/-- Where in a query a text stands makes no difference. -/
theorem faultless_iff (position : Nat) :
    Faultless text ↔ ∃ tokens, (Cursor.mk position text).tokens = .ok tokens := by
  rw [Faultless, Cursor.tokens_mk position]
  cases (Cursor.start text).tokens with
  | ok tokens => simp [Token.followedBy]
  | error error => simp [Token.followedBy]

theorem faultless_nil : Faultless [] :=
  ⟨_, Cursor.tokens_nil 0⟩

theorem faultless_blanks_append {blanks : List Char}
    (blank : ∀ c ∈ blanks, Text.isBlank c = true) :
    Faultless (blanks ++ rest) ↔ Faultless rest := by
  rw [Faultless, Cursor.start, Cursor.tokens_blanks blank, ← faultless_iff]

theorem IsSource.faultless_iff (written : IsSource source lexeme rest) :
    Faultless (source ++ rest) ↔ Faultless rest := by
  rw [Faultless, Cursor.start, written.tokens_eq,
    Lexeme.faultless_iff (0 + Text.byteLength source)]
  cases (Cursor.mk (0 + Text.byteLength source) rest).tokens with
  | ok tokens => simp [Except.map]
  | error error => simp [Except.map]

/-- An exclamation mark makes no fault and mends none, though it can take part in several marks. -/
theorem faultless_exclamation (text : List Char) :
    Faultless ('!' :: text) ↔ Faultless text := by
  by_cases alone : standsAlone text = true
  · exact (IsSource.sign .errorSuffix alone).faultless_iff
  by_cases mark : ∃ tail, text = '!' :: '!' :: tail
  · obtain ⟨tail, rfl⟩ := mark
    calc Faultless ('!' :: '!' :: '!' :: tail)
        ↔ Faultless tail := (IsSource.mark .errorSuffix).faultless_iff
      _ ↔ Faultless ('!' :: tail) := (faultless_exclamation tail).symm
      _ ↔ Faultless ('!' :: '!' :: tail) :=
          (faultless_exclamation ('!' :: tail)).symm
  by_cases absence : ∃ (asked : Signal) (tail : List Char),
      text = asked.sign :: tail ∧ standsAlone tail = true
  · obtain ⟨asked, tail, rfl, tailAlone⟩ := absence
    calc Faultless ('!' :: asked.sign :: tail)
        ↔ Faultless tail := (IsSource.absenceMark asked tailAlone).faultless_iff
      _ ↔ Faultless (asked.sign :: tail) :=
          (IsSource.sign asked tailAlone).faultless_iff.symm
  · have negates : Negates text := by
      refine ⟨eq_false_of_ne_true alone, ?_, not_exists.mp mark⟩
      intro asked tail begins
      have noAbsence := not_exists.mp (not_exists.mp absence asked) tail
      exact eq_false_of_ne_true fun tailAlone => noAbsence ⟨begins, tailAlone⟩
    exact (IsSource.negation negates).faultless_iff
termination_by text.length

end Faultless

/-! ## Cutting a text -/

section Cutting

variable {source rest behind : List Char} {lexeme : Lexeme}

/-- A source and a text without faults make a text without faults, if the text is what stands behind the
source or begins it. -/
theorem IsSource.faultless_of_append
    (written : IsSource source lexeme (rest ++ behind))
    (faultless : Faultless rest) : Faultless (source ++ rest) := by
  rcases written.of_append with rfl | again
  · exact (faultless_exclamation rest).mpr faultless
  · exact again.faultless_iff.mpr faultless

end Cutting

end Lexeme

namespace Cursor

/-! ## The place of the fault -/

section Place

/-- Reading leads over some blanks and the source of the lexeme that is read. -/
theorem exists_source_of_next {cursor following : Cursor} {token : Token}
    (found : cursor.next = (.ok token, following))
    (notEnd : token.isEnd = false) :
    ∃ blanks source lexeme,
      cursor.rest = blanks ++ (source ++ following.rest) ∧
      following.position =
        cursor.position + Text.byteLength (blanks ++ source) ∧
      (∀ c ∈ blanks, Text.isBlank c = true) ∧
      Lexeme.IsSource source lexeme following.rest := by
  obtain ⟨⟨blanks, left, blank, position⟩, _⟩ := blanksUpTo_skipBlanks cursor
  have read : cursor.next.1 = .ok token := by rw [found]
  obtain ⟨lexeme, length, scanned, rfl, there⟩ := scan_of_next read
  have nonempty : cursor.skipBlanks.rest ≠ [] := by
    intro empty
    rw [empty] at scanned
    cases (Lexeme.found_inj scanned).1
    cases notEnd
  obtain ⟨source, rest, begins, rfl, written⟩ :=
    Lexeme.beginsWith_of_scan nonempty scanned
  rw [found] at there
  change following = cursor.skipBlanks.advance source.length at there
  rw [advance_of_append begins, position] at there
  rw [begins] at left
  subst there
  refine ⟨blanks, source, lexeme, left, ?_, blank, written⟩
  rw [Text.byteLength_append, Nat.add_assoc]

theorem next_skipBlanks (cursor : Cursor) :
    cursor.skipBlanks.next = cursor.next := by
  rw [next, skipBlanks_skipBlanks]
  rfl

/-- Where the tokens of a text stop at a fault, a lexeme begins in which the fault is found, and what
stands before it has no fault of its own. -/
theorem exists_place_of_tokens_error {cursor : Cursor} {error : LexicalError}
    (failed : cursor.tokens = .error error) :
    ∃ (count : Nat) (before : List Char),
      cursor.rest = before ++ (cursor.after count).skipBlanks.rest ∧
      (cursor.after count).skipBlanks.position =
        cursor.position + Text.byteLength before ∧
      Lexeme.Faultless before ∧
      (cursor.after count).next.1 = .error error := by
  cases found : cursor.next with
  | mk outcome following =>
      cases outcome with
      | error other =>
          rw [tokens_of_next_error found] at failed
          cases failed
          obtain ⟨⟨blanks, left, blank, position⟩, _⟩ :=
            blanksUpTo_skipBlanks cursor
          have faultless := (Lexeme.faultless_blanks_append blank).mpr
            Lexeme.faultless_nil
          rw [List.append_nil] at faultless
          exact ⟨0, blanks, left, position, faultless, by rw [after, found]⟩
      | ok token =>
          by_cases isEnd : token.isEnd = true
          · rw [tokens_of_next_end found (by simp [isEnd])] at failed
            cases failed
          have notEnd := eq_false_of_ne_true isEnd
          have shorter := length_rest_next_lt found notEnd
          rw [tokens_of_next found notEnd] at failed
          cases behind : following.tokens with
          | ok others =>
              rw [behind] at failed
              cases failed
          | error other =>
              rw [behind] at failed
              cases failed
              obtain ⟨blanks, source, lexeme, whole, moved, blank, written⟩ :=
                exists_source_of_next found notEnd
              obtain ⟨count, before, left, position, faultless, shown⟩ :=
                exists_place_of_tokens_error behind
              have there : cursor.after (count + 1) = following.after count := by
                rw [after_succ, found]
              refine ⟨count + 1, blanks ++ (source ++ before), ?_, ?_, ?_, ?_⟩
              · rw [there, List.append_assoc, List.append_assoc, ← left, whole]
              · rw [there, position, moved]
                simp only [Text.byteLength_append]
                omega
              · rw [left] at written
                exact (Lexeme.faultless_blanks_append blank).mpr
                  (written.faultless_of_append faultless)
              · rw [there]
                exact shown
termination_by cursor.rest.length

/-- A fault that is found at a place is found as well if the text begins there. -/
theorem next_start_of_next_error {cursor : Cursor} {error : LexicalError}
    (shown : cursor.next.1 = .error error) :
    (start cursor.rest).next.1 =
      .error ⟨error.fault, error.position - cursor.position⟩ := by
  have moved := next_shift cursor.position (start cursor.rest)
  have same : (start cursor.rest).shift cursor.position = cursor := by
    simp [start, shift]
  rw [same] at moved
  rw [moved] at shown
  cases found : (start cursor.rest).next.1 with
  | ok token =>
      rw [found] at shown
      cases shown
  | error other =>
      rw [found] at shown
      cases shown
      simp [LexicalError.shift]

end Place

end Cursor

/-! ## Queries -/

section Queries

/-- An error in a query lies at the end of a character, or of the query. It is an error of the lexeme that
begins behind some text: this text has tokens by itself, and where a query begins with the lexeme, the
same fault is found in its first lexeme, at the same character. -/
theorem Token.exists_lexeme_of_error {query : String} {error : LexicalError}
    (failed : ofText query = .error error) :
    (String.Pos.Raw.mk error.position).IsValid query ∧
    error.position ≤ query.utf8ByteSize ∧
    ∃ before behind : String,
      query = before ++ behind ∧
      (∃ count, ((Cursor.start query.toList).after count).skipBlanks =
        ⟨before.utf8ByteSize, behind.toList⟩) ∧
      before.utf8ByteSize ≤ error.position ∧
      (∃ tokens, ofText before = .ok tokens) ∧
      (Cursor.start behind.toList).next.1 =
        .error ⟨error.fault, error.position - before.utf8ByteSize⟩ ∧
      ofText behind =
        .error ⟨error.fault, error.position - before.utf8ByteSize⟩ := by
  obtain ⟨count, before, whole, position, faultless, shown⟩ :=
    Cursor.exists_place_of_tokens_error failed
  generalize placed : (Cursor.start query.toList).after count = here at *
  have lies : here.LiesIn query := placed ▸ (Cursor.liesIn_start query).after count
  have reading := Cursor.reading_next lies
  have isValid := reading.answer_isValid
  have behindBlanks := reading.first_le_answer
  rw [shown] at isValid behindBlanks
  rw [← Cursor.next_skipBlanks] at shown
  have first := Cursor.next_start_of_next_error shown
  have size : Text.byteLength before = (String.ofList before).utf8ByteSize :=
    (Text.utf8ByteSize_ofList before).symm
  have start : here.skipBlanks.position = (String.ofList before).utf8ByteSize := by
    rw [position, size]
    exact Nat.zero_add _
  have behindText : (String.ofList here.skipBlanks.rest).toList =
      here.skipBlanks.rest := String.toList_ofList
  rw [start, ← behindText] at first
  refine ⟨isValid, isValid.le_utf8ByteSize, String.ofList before,
    String.ofList here.skipBlanks.rest, ?_, ⟨count, ?_⟩, ?_, ?_, first, ?_⟩
  · rw [← String.ofList_append, ← whole]
    exact String.ofList_toList.symm
  · rw [placed, ← start, behindText]
  · rw [← start]
    exact behindBlanks
  · rw [ofText, String.toList_ofList]
    exact faultless
  · exact Cursor.tokens_of_next_error (Prod.ext first rfl)

/-- In front of `@x` the two exclamation marks are negations, by themselves they are one mark. -/
theorem Token.exists_lexeme_of_error_cut :
    ofText "!!@x" = .error ⟨.unexpectedCharacter '@', 2⟩ ∧
    ∃ before behind : String,
      "!!@x" = before ++ behind ∧ before.utf8ByteSize ≤ 2 ∧
      (∃ tokens, ofText before = .ok tokens) ∧
      (Cursor.start behind.toList).next.1 =
        .error ⟨.unexpectedCharacter '@', 2 - before.utf8ByteSize⟩ := by
  have first : (Cursor.start "!!@x".toList).next =
      (.ok ⟨.symbol .not "!", 0⟩, ⟨1, "!@x".toList⟩) := rfl
  have second : (Cursor.mk 1 "!@x".toList).next =
      (.ok ⟨.symbol .not "!", 1⟩, ⟨2, "@x".toList⟩) := rfl
  have third : (Cursor.mk 2 "@x".toList).next =
      (.error ⟨.unexpectedCharacter '@', 2⟩, ⟨2, "@x".toList⟩) := rfl
  have failed : ofText "!!@x" = .error ⟨.unexpectedCharacter '@', 2⟩ := by
    rw [ofText, Cursor.tokens_of_next first rfl,
      Cursor.tokens_of_next second rfl, Cursor.tokens_of_next_error third]
    rfl
  obtain ⟨_, _, before, behind, whole, _, within, read, shown, _⟩ :=
    exists_lexeme_of_error failed
  exact ⟨failed, before, behind, whole, within, read, shown⟩

end Queries

end RecordQuery
