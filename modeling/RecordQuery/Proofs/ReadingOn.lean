import RecordQuery.Proofs.Scanning

/-!
# Reading on after any answer

Tokens can be read one after another without regard to the answers: reading goes on behind a fault and
at the end of the query. Every place that is reached lies between two characters of the query, no
reading goes back, and one that uses up nothing but blanks gives the answer that all later ones repeat.
-/

namespace RecordQuery

/-! ## Scans that use something up -/

/-- What holds of every scan of a text that is not empty: a fault lies in the part that is used up,
and only a character that begins no lexeme leaves everything in its place. -/
structure Scan.Advances (scan : Scan) : Prop where
  fault_within : ∀ fault offset,
    scan.outcome = .error (fault, offset) → offset ≤ scan.length
  moves : 0 < scan.length ∨ ∃ c, scan = .unexpected c

namespace Lexeme

section Advances

theorem advances_found {lexeme : Lexeme} {length : Nat}
    (positive : 0 < length) : (Scan.found lexeme length).Advances :=
  ⟨fun _ _ isError => (nomatch isError), Or.inl positive⟩

theorem advances_faulty {fault : LexicalFault} {offset length : Nat}
    (within : offset ≤ length) (positive : 0 < length) :
    (Scan.faulty fault offset length).Advances := by
  refine ⟨fun other otherOffset isError => ?_, Or.inl positive⟩
  cases isError
  exact within

theorem advances_unexpected (c : Char) : (Scan.unexpected c).Advances := by
  refine ⟨fun other otherOffset isError => ?_, Or.inr ⟨c, rfl⟩⟩
  cases isError
  exact Nat.le_refl 0

theorem scanQuoted_advances {opening : Nat} (positive : 0 < opening)
    (rest : List Char) (make : String → Lexeme) :
    (scanQuoted opening rest make).Advances := by
  rw [scanQuoted]
  split
  · exact advances_found (Nat.add_pos_left positive _)
  · exact advances_faulty (by omega) (Nat.add_pos_left positive _)
  · exact advances_faulty (Nat.sub_le _ 1) (Nat.add_pos_left positive _)

theorem scanExclamation_advances (rest : List Char) :
    (scanExclamation rest).Advances := by
  unfold scanExclamation
  split <;> (try split) <;> exact advances_found (Nat.succ_pos _)

theorem scanSignal_advances (asked : Signal) (rest : List Char) :
    (scanSignal asked rest).Advances := by
  rw [scanSignal]
  split
  · exact advances_found (Nat.succ_pos _)
  · split
    · exact advances_found (Nat.succ_pos _)
    · exact advances_unexpected asked.sign

theorem scanStatusLetter_advances (rest : List Char) :
    (scanStatusLetter rest).Advances := by
  cases rest with
  | nil => exact advances_faulty (Nat.zero_le 1) Nat.one_pos
  | cons letter tail =>
      rw [scanStatusLetter]
      split
      · exact advances_found Nat.two_pos
      · exact advances_faulty (Nat.zero_le 1) Nat.one_pos

theorem scanSigil_advances (sigil : Sigil) (rest : List Char) :
    (scanSigil sigil rest).Advances := by
  simp only [scanSigil]
  split
  · exact advances_faulty (Nat.zero_le 1) Nat.one_pos
  · exact advances_found (Nat.add_pos_left Nat.one_pos _)

theorem scanValue_advances {key : PropertyKey} {keyLength : Nat}
    (positive : 0 < keyLength) (rest : List Char) :
    (scanValue key keyLength rest).Advances := by
  unfold scanValue
  split
  · exact scanQuoted_advances (Nat.succ_pos keyLength) _ _
  · dsimp only
    split
    · exact advances_faulty (Nat.le_refl keyLength) positive
    · exact advances_found (Nat.add_pos_left positive _)

theorem scanWord_advances {c : Char} {rest : List Char}
    (starts : isWordStart c = true) : (scanWord (c :: rest)).Advances := by
  have positive : 0 < ((c :: rest).takeWhile isWordPart).length :=
    takeWhile_length_pos rfl (isWordPart_of_isWordStart starts)
  rw [scanWord]
  split
  · split
    · exact scanValue_advances (Nat.succ_pos _) _
    · exact advances_faulty (Nat.zero_le _) positive
  · exact advances_found positive

/-- The scan of a text uses something up, unless its first character begins no lexeme. -/
theorem scan_advances {text : List Char} (nonempty : text ≠ []) :
    (scan text).Advances := by
  unfold scan
  split
  · exact absurd rfl nonempty
  · exact advances_found Nat.one_pos
  · exact advances_found Nat.one_pos
  · exact scanQuoted_advances Nat.one_pos _ _
  · exact scanQuoted_advances Nat.two_pos _ _
  · exact scanExclamation_advances _
  · exact scanSignal_advances _ _
  · exact scanSignal_advances _ _
  · exact scanStatusLetter_advances _
  · exact scanSigil_advances _ _
  · exact scanSigil_advances _ _
  · exact scanSigil_advances _ _
  · split
    · exact advances_found Nat.one_pos
    · split
      · next starts => exact scanWord_advances starts
      · exact advances_unexpected _

end Advances

end Lexeme

namespace Cursor

/-! ## Places in a query -/

section Places

/-- Whether a cursor is a place in a query: what is left is the rest of the query, and the position
counts the bytes in front of it. -/
def LiesIn (cursor : Cursor) (query : String) : Prop :=
  ∃ before, query.toList = before ++ cursor.rest ∧
    cursor.position = Text.byteLength before

variable {cursor : Cursor} {query : String}

theorem liesIn_start (query : String) : (start query.toList).LiesIn query :=
  ⟨[], rfl, rfl⟩

theorem LiesIn.advance (lies : cursor.LiesIn query) (count : Nat) :
    (cursor.advance count).LiesIn query := by
  obtain ⟨before, whole, position⟩ := lies
  refine ⟨before ++ cursor.rest.take count, ?_, ?_⟩
  · rw [rest_advance, List.append_assoc, List.take_append_drop]
    exact whole
  · rw [Text.byteLength_append, ← position]
    rfl

/-- A place in a query is the end of a character, or of the query, in its UTF-8 form. -/
theorem LiesIn.isValid (lies : cursor.LiesIn query) :
    (String.Pos.Raw.mk cursor.position).IsValid query := by
  obtain ⟨before, whole, position⟩ := lies
  have split : query = String.ofList before ++ String.ofList cursor.rest := by
    rw [← String.ofList_append, ← whole, String.ofList_toList]
  refine String.Pos.Raw.isValid_iff_exists_append.mpr ⟨_, _, split, ?_⟩
  rw [position, ← Text.utf8ByteSize_ofList]
  rfl

theorem position_advance_mono (cursor : Cursor) {count further : Nat}
    (le : count ≤ further) :
    (cursor.advance count).position ≤ (cursor.advance further).position := by
  have longer : cursor.rest.take further =
      cursor.rest.take count ++ (cursor.rest.drop count).take (further - count) := by
    rw [← List.take_add, Nat.add_sub_cancel' le]
  simp only [advance, longer, Text.byteLength_append]
  omega

theorem position_le_advance (cursor : Cursor) (count : Nat) :
    cursor.position ≤ (cursor.advance count).position :=
  Nat.le_add_right _ _

theorem position_lt_advance {count : Nat} (positive : 0 < count)
    (nonempty : cursor.rest ≠ []) :
    cursor.position < (cursor.advance count).position := by
  have taken : 0 < (cursor.rest.take count).length := by
    rw [List.length_take]
    exact Nat.lt_min.mpr ⟨positive, List.length_pos_iff.mpr nonempty⟩
  have bytes := Text.length_le_byteLength (cursor.rest.take count)
  simp only [advance]
  omega

end Places

/-! ## Blanks -/

section Blanks

/-- Whether `first` is the first place from `cursor` on that is not blank, or the end. -/
structure BlanksUpTo (cursor first : Cursor) : Prop where
  blanks : ∃ blanks, cursor.rest = blanks ++ first.rest ∧
    (∀ c ∈ blanks, Text.isBlank c = true) ∧
    first.position = cursor.position + Text.byteLength blanks
  not_blank : ∀ c rest, first.rest = c :: rest → Text.isBlank c = false

variable (cursor : Cursor)

theorem rest_skipBlanks :
    cursor.skipBlanks.rest = Text.trimStart cursor.rest := by
  have whole := List.takeWhile_append_dropWhile (p := Text.isBlank) (l := cursor.rest)
  rw [skipBlanks, rest_advance, Text.trimStart]
  conv => enter [1, 2]; rw [← whole]
  exact List.drop_left

theorem blanksUpTo_skipBlanks : cursor.BlanksUpTo cursor.skipBlanks := by
  have taken : cursor.rest.take (cursor.rest.takeWhile Text.isBlank).length =
      cursor.rest.takeWhile Text.isBlank :=
    (List.prefix_iff_eq_take.mp (List.takeWhile_prefix _)).symm
  constructor
  · refine ⟨cursor.rest.takeWhile Text.isBlank, ?_, ?_, ?_⟩
    · rw [rest_skipBlanks, Text.trimStart, List.takeWhile_append_dropWhile]
    · exact List.all_eq_true.mp List.all_takeWhile
    · rw [skipBlanks, advance, taken]
  · intro c rest begins
    rw [rest_skipBlanks] at begins
    exact Text.isBlank_head_trimStart begins

theorem skipBlanks_skipBlanks :
    cursor.skipBlanks.skipBlanks = cursor.skipBlanks := by
  have none : cursor.skipBlanks.rest.takeWhile Text.isBlank = [] := by
    cases begins : cursor.skipBlanks.rest with
    | nil => rfl
    | cons c rest =>
        have notBlank := (blanksUpTo_skipBlanks cursor).not_blank c rest begins
        rw [List.takeWhile_cons, notBlank]
        rfl
  rw [skipBlanks, none]
  rfl

end Blanks

/-! ## One reading -/

section Reading

/-- The position that an answer names. -/
def positionOf : Except LexicalError Token → Nat
  | .ok token => token.position
  | .error error => error.position

/-- The answers after which nothing else can be read: the end marker, and a character that begins no
lexeme. -/
inductive IsLast : Except LexicalError Token → Prop
  | ending (position : Nat) : IsLast (.ok ⟨.endOfQuery, position⟩)
  | unexpected (c : Char) (position : Nat) :
      IsLast (.error ⟨.unexpectedCharacter c, position⟩)

variable {cursor : Cursor} {query : String}

theorem LiesIn.next (lies : cursor.LiesIn query) :
    cursor.next.2.LiesIn query :=
  (lies.advance _).advance _

/-- The position of an answer is that of some place behind the blanks, in the part that is used up. -/
theorem positionOf_next (cursor : Cursor) :
    ∃ offset ≤ (Lexeme.scan cursor.skipBlanks.rest).length,
      positionOf cursor.next.1 =
        (cursor.skipBlanks.advance offset).position := by
  cases outcome : (Lexeme.scan cursor.skipBlanks.rest).outcome with
  | ok lexeme =>
      refine ⟨0, Nat.zero_le _, ?_⟩
      simp [Cursor.next, outcome, positionOf, advance]
  | error fault =>
      obtain ⟨fault, offset⟩ := fault
      refine ⟨offset, ?_, by simp [Cursor.next, outcome, positionOf]⟩
      have nonempty : cursor.skipBlanks.rest ≠ [] := by
        intro empty
        rw [empty] at outcome
        cases outcome
      exact (Lexeme.scan_advances nonempty).fault_within fault offset outcome

theorem scan_of_next {token : Token} (read : cursor.next.1 = .ok token) :
    ∃ lexeme length,
      Lexeme.scan cursor.skipBlanks.rest = .found lexeme length ∧
      token = ⟨lexeme, cursor.skipBlanks.position⟩ ∧
      cursor.next.2 = cursor.skipBlanks.advance length := by
  cases scanned : Lexeme.scan cursor.skipBlanks.rest with
  | mk outcome length =>
      simp only [next, scanned] at read ⊢
      cases outcome with
      | error fault => cases read
      | ok lexeme =>
          cases read
          exact ⟨lexeme, length, rfl, rfl, rfl⟩

/-- A reading that uses up no more than blanks leads to a place where the same is read again. -/
theorem next_of_length_eq_zero
    (zero : (Lexeme.scan cursor.skipBlanks.rest).length = 0) :
    cursor.next.2.next = cursor.next := by
  have there : cursor.next.2 = cursor.skipBlanks := by
    simp [Cursor.next, zero, advance]
  rw [there, Cursor.next, skipBlanks_skipBlanks]
  rfl

/-- A reading moves on behind the blanks, or it gives one of the last answers and is repeated. -/
theorem moves_or_isLast (cursor : Cursor) :
    cursor.skipBlanks.position < cursor.next.2.position ∨
      IsLast cursor.next.1 ∧ cursor.next.2.next = cursor.next := by
  by_cases empty : cursor.skipBlanks.rest = []
  · refine Or.inr ⟨?_, next_of_length_eq_zero (by rw [empty]; rfl)⟩
    simp only [Cursor.next, empty]
    exact IsLast.ending _
  rcases (Lexeme.scan_advances empty).moves with positive | ⟨c, unexpected⟩
  · exact Or.inl (position_lt_advance positive empty)
  · refine Or.inr ⟨?_, next_of_length_eq_zero (by rw [unexpected]; rfl)⟩
    simp only [Cursor.next, unexpected]
    exact IsLast.unexpected c _

/-- What holds of a reading that goes from `here` to `there` and gives `answer`, where `first` is the
first place from `here` on that is not blank. -/
structure Reading (query : String) (here first : Cursor)
    (answer : Except LexicalError Token) (there : Cursor) : Prop where
  here_isValid : (String.Pos.Raw.mk here.position).IsValid query
  there_isValid : (String.Pos.Raw.mk there.position).IsValid query
  here_le_there : here.position ≤ there.position
  blanks : here.BlanksUpTo first
  answer_isValid : (String.Pos.Raw.mk (positionOf answer)).IsValid query
  first_le_answer : first.position ≤ positionOf answer
  answer_le_there : positionOf answer ≤ there.position

theorem reading_next (lies : cursor.LiesIn query) :
    Reading query cursor cursor.skipBlanks cursor.next.1 cursor.next.2 := by
  obtain ⟨offset, within, named⟩ := positionOf_next cursor
  have behindBlanks := lies.advance (cursor.rest.takeWhile Text.isBlank).length
  constructor
  · exact lies.isValid
  · exact lies.next.isValid
  · exact Nat.le_trans (position_le_advance cursor _) (position_le_advance _ _)
  · exact blanksUpTo_skipBlanks cursor
  · rw [named]
    exact (behindBlanks.advance offset).isValid
  · rw [named]
    exact position_le_advance _ offset
  · rw [named]
    exact position_advance_mono _ within

end Reading

/-! ## Readings in a row -/

section Row

variable {cursor : Cursor} {query : String}

/-- The place that a number of readings in a row lead to. -/
def after (cursor : Cursor) : Nat → Cursor
  | 0 => cursor
  | count + 1 => (cursor.after count).next.2

theorem after_succ (cursor : Cursor) (count : Nat) :
    cursor.after (count + 1) = cursor.next.2.after count := by
  induction count with
  | zero => rfl
  | succ count inductionHypothesis => rw [after, inductionHypothesis, after]

theorem after_add (cursor : Cursor) (count further : Nat) :
    cursor.after (count + further) = (cursor.after count).after further := by
  induction further with
  | zero => rfl
  | succ further inductionHypothesis =>
      rw [← Nat.add_assoc, after, after, inductionHypothesis]

/-- The answers of readings in a row, one by one. -/
theorem getElem?_nextTimes {count index : Nat} (within : index < count) :
    (cursor.nextTimes count)[index]? = some (cursor.after index).next.1 := by
  induction count generalizing cursor index with
  | zero => exact absurd within (Nat.not_lt_zero index)
  | succ count inductionHypothesis =>
      cases index with
      | zero => rfl
      | succ index =>
          rw [nextTimes, List.getElem?_cons_succ, after_succ]
          exact inductionHypothesis (Nat.lt_of_succ_lt_succ within)

theorem LiesIn.after (lies : cursor.LiesIn query) (count : Nat) :
    (cursor.after count).LiesIn query := by
  induction count with
  | zero => exact lies
  | succ count inductionHypothesis => exact inductionHypothesis.next

/-- Where a reading is repeated by the next one, it is repeated by all later ones. -/
theorem next_after_of_repeated (repeated : cursor.next.2.next = cursor.next)
    (further : Nat) : (cursor.after further).next = cursor.next := by
  induction further with
  | zero => rfl
  | succ further inductionHypothesis =>
      rw [Cursor.after, inductionHypothesis, repeated]

/-- Any number of readings after one another, whatever their answers: the places between them lie
between two characters of the query, no reading goes back or names a place that it does not go over,
and one that uses up nothing behind the blanks gives a last answer, which all later readings repeat. -/
theorem reading_after_start (query : String) (count : Nat) :
    ∃ here first answer there,
      (start query.toList).after count = here ∧
      (start query.toList).after (count + 1) = there ∧
      (∀ total, count < total →
        ((start query.toList).nextTimes total)[count]? = some answer) ∧
      Reading query here first answer there ∧
      (first.position < there.position ∨
        IsLast answer ∧ ∀ later total, count ≤ later → later < total →
          ((start query.toList).nextTimes total)[later]? = some answer) := by
  generalize placed : (start query.toList).after count = here
  have lies : here.LiesIn query := placed ▸ (liesIn_start query).after count
  refine ⟨here, here.skipBlanks, here.next.1, here.next.2, rfl, ?_, ?_,
    reading_next lies, ?_⟩
  · rw [after, placed]
  · intro total less
    rw [getElem?_nextTimes less, placed]
  · rcases moves_or_isLast here with moves | ⟨last, repeated⟩
    · exact Or.inl moves
    · refine Or.inr ⟨last, fun later total le less => ?_⟩
      obtain ⟨further, rfl⟩ := Nat.exists_eq_add_of_le le
      rw [getElem?_nextTimes less, after_add, placed,
        next_after_of_repeated repeated]

end Row

end Cursor

end RecordQuery
