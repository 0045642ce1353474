import RecordQuery.Text.Bytes
import RecordQuery.Token.Scan

/-!
# Reading the tokens of a query

A cursor is a place in a query: its byte position and the text from there on. `Cursor.next` skips
blanks and reads one token; it also moves on when it finds a fault. `Token.ofText` reads all tokens up
to the end of the query and stops at the first fault.
-/

namespace RecordQuery

/-- A fault in the text of a query and the byte position where it is. -/
structure LexicalError where
  fault : LexicalFault
  position : Nat
  deriving DecidableEq, Repr

/-- A place in a query. -/
structure Cursor where
  position : Nat
  rest : List Char
  deriving DecidableEq, Repr

namespace Cursor

def start (query : List Char) : Cursor :=
  ⟨0, query⟩

def advance (cursor : Cursor) (count : Nat) : Cursor :=
  ⟨cursor.position + Text.byteLength (cursor.rest.take count), cursor.rest.drop count⟩

/-- The first place from here on that is not blank. -/
def skipBlanks (cursor : Cursor) : Cursor :=
  cursor.advance (cursor.rest.takeWhile Text.isBlank).length

/-- Reads the next token and moves behind it, or behind the part of it that is used up when a fault
is found. At the end of the query the token is the end marker. -/
def next (cursor : Cursor) : Except LexicalError Token × Cursor :=
  let begin := cursor.skipBlanks
  let scan := Lexeme.scan begin.rest
  let outcome := match scan.outcome with
    | .ok lexeme => .ok ⟨lexeme, begin.position⟩
    | .error (fault, offset) => .error ⟨fault, (begin.advance offset).position⟩
  (outcome, begin.advance scan.length)

/-- Reads `count` tokens in a row, going on after faults and after the end. -/
def nextTimes (cursor : Cursor) : Nat → List (Except LexicalError Token)
  | 0 => []
  | count + 1 => cursor.next.1 :: cursor.next.2.nextTimes count

@[simp] theorem rest_advance (cursor : Cursor) (count : Nat) :
    (cursor.advance count).rest = cursor.rest.drop count := rfl

theorem length_rest_skipBlanks_le (cursor : Cursor) :
    cursor.skipBlanks.rest.length ≤ cursor.rest.length := by
  simp [skipBlanks]

end Cursor

/-! ## Progress -/

section Progress

theorem Lexeme.takeWhile_length_pos {text : List Char} {c : Char} {rest : List Char}
    {test : Char → Bool} (equality : text = c :: rest) (holds : test c = true) :
    0 < (text.takeWhile test).length := by
  simp [equality, holds]

theorem Lexeme.scanQuoted_progress {opening : Nat} (positive : 0 < opening) (rest : List Char)
    (make : String → Lexeme) : 0 < (scanQuoted opening rest make).length := by
  unfold scanQuoted
  split <;> simp only [Scan.found, Scan.faulty] <;> omega

theorem Lexeme.scanValue_progress {key : PropertyKey} {keyLength : Nat} (positive : 0 < keyLength)
    (rest : List Char) : 0 < (scanValue key keyLength rest).length := by
  unfold scanValue
  split
  · exact scanQuoted_progress (Nat.succ_pos _) _ _
  · dsimp only
    split <;> simp only [Scan.found, Scan.faulty] <;> omega

theorem Lexeme.isWordPart_of_isWordStart {c : Char} (starts : isWordStart c = true) :
    isWordPart c = true := by
  simp only [isWordStart, isWordPart, Bool.or_eq_true] at starts ⊢
  rcases starts with letter | underscore
  · exact Or.inl (Or.inl (Or.inl letter))
  · exact Or.inl (Or.inr underscore)

theorem Lexeme.scanWord_progress {c : Char} {rest : List Char} (starts : isWordStart c = true) :
    0 < (scanWord (c :: rest)).length := by
  have positive : 0 < ((c :: rest).takeWhile isWordPart).length :=
    takeWhile_length_pos rfl (isWordPart_of_isWordStart starts)
  unfold scanWord
  split
  · dsimp only
    split
    · exact scanValue_progress (Nat.succ_pos _) _
    · exact positive
  · exact positive

/-- A lexeme other than the end marker uses up at least one character. -/
theorem Lexeme.scan_progress {text : List Char} {lexeme : Lexeme}
    (found : (scan text).outcome = .ok lexeme) (notEnd : lexeme.isEnd = false) :
    text ≠ [] ∧ 0 < (scan text).length := by
  constructor
  · rintro rfl
    simp only [scan, Scan.found, Except.ok.injEq] at found
    rw [← found] at notEnd
    cases notEnd
  · revert found
    unfold scan
    split
    · intro found
      simp only [Scan.found, Except.ok.injEq] at found
      rw [← found] at notEnd
      cases notEnd
    · exact fun _ => Nat.zero_lt_one
    · exact fun _ => Nat.zero_lt_one
    · exact fun _ => scanQuoted_progress Nat.zero_lt_one _ _
    · exact fun _ => scanQuoted_progress Nat.zero_lt_two _ _
    · intro _
      unfold scanExclamation
      split <;> (try split) <;> exact Nat.succ_pos _
    · unfold scanSignal
      split
      · exact fun _ => Nat.succ_pos _
      · split
        · exact fun _ => Nat.succ_pos _
        · exact fun found => nomatch found
    · unfold scanSignal
      split
      · exact fun _ => Nat.succ_pos _
      · split
        · exact fun _ => Nat.succ_pos _
        · exact fun found => nomatch found
    · intro _
      unfold scanStatusLetter
      split
      · exact Nat.succ_pos _
      · split <;> exact Nat.succ_pos _
    iterate 3
      · intro _
        unfold scanSigil
        simp only
        split <;> simp only [Scan.found, Scan.faulty] <;> omega
    · split
      · exact fun _ => Nat.succ_pos _
      · split
        · next starts => exact fun _ => scanWord_progress starts
        · exact fun found => nomatch found

/-- Behind a token other than the end marker there is less text left. -/
theorem Cursor.length_rest_next_lt {cursor following : Cursor} {token : Token}
    (found : cursor.next = (.ok token, following)) (notEnd : token.isEnd = false) :
    following.rest.length < cursor.rest.length := by
  obtain ⟨outcomeEquality, rfl⟩ := Prod.mk.inj found
  have scanned : ∃ lexeme, (Lexeme.scan cursor.skipBlanks.rest).outcome = .ok lexeme ∧
      lexeme.isEnd = false := by
    revert outcomeEquality
    split
    · next lexeme outcome =>
        intro found
        cases found
        exact ⟨lexeme, outcome, notEnd⟩
    · exact fun found => nomatch found
  obtain ⟨lexeme, outcome, lexemeNotEnd⟩ := scanned
  obtain ⟨notEmpty, positive⟩ := Lexeme.scan_progress outcome lexemeNotEnd
  have shorter := cursor.length_rest_skipBlanks_le
  have notZero : 0 < cursor.skipBlanks.rest.length := List.length_pos_iff.2 notEmpty
  rw [rest_advance, List.length_drop]
  omega

end Progress

/-- Reads the tokens from a place on, up to and including the end marker. -/
def Cursor.tokens (cursor : Cursor) : Except LexicalError (List Token) :=
  match found : cursor.next with
  | (.error error, _) => .error error
  | (.ok token, following) =>
      if notEnd : token.isEnd = false then
        have _shorter := Cursor.length_rest_next_lt found notEnd
        match following.tokens with
        | .error error => .error error
        | .ok others => .ok (token :: others)
      else .ok [token]
termination_by cursor.rest.length
decreasing_by assumption

/-- The tokens of a query, ending with the end marker. -/
def Token.ofText (query : String) : Except LexicalError (List Token) :=
  (Cursor.start query.toList).tokens

end RecordQuery
