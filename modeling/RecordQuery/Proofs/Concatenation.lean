import RecordQuery.Proofs.Boundaries

/-!
# Tokens of joined texts

The tokens of a text do not depend on where the text begins, but for their positions. A text in front of
a boundary has the tokens that it has by itself, without the end marker, and what stands behind the
boundary has its own tokens or its own error, moved by the bytes in front of it.
-/

namespace RecordQuery

/-- The token at a place that is some bytes later. -/
def Token.shift (distance : Nat) (token : Token) : Token :=
  { token with position := token.position + distance }

/-- The fault at a place that is some bytes later. -/
def LexicalError.shift (distance : Nat) (error : LexicalError) : LexicalError :=
  { error with position := error.position + distance }

/-- Some tokens, followed by those of a text that begins at the byte `start`; or the error of that
text. -/
def Token.followedBy (tokens : List Token) (start : Nat) :
    Except LexicalError (List Token) → Except LexicalError (List Token)
  | .ok others => .ok (tokens ++ others.map (shift start))
  | .error error => .error (error.shift start)

namespace Cursor

/-! ## Moving a text -/

section Moving

def shift (distance : Nat) (cursor : Cursor) : Cursor :=
  { cursor with position := cursor.position + distance }

variable (distance : Nat) (cursor : Cursor)

theorem advance_shift (count : Nat) :
    (cursor.shift distance).advance count =
      (cursor.advance count).shift distance := by
  simp [advance, shift, Nat.add_right_comm]

theorem skipBlanks_shift :
    (cursor.shift distance).skipBlanks =
      cursor.skipBlanks.shift distance :=
  advance_shift distance cursor _

theorem next_shift :
    (cursor.shift distance).next =
      ((cursor.next.1.map (Token.shift distance)).mapError
        (LexicalError.shift distance), cursor.next.2.shift distance) := by
  have sameText : (cursor.skipBlanks.shift distance).rest =
      cursor.skipBlanks.rest := rfl
  simp only [next, skipBlanks_shift, sameText, advance_shift]
  cases (Lexeme.scan cursor.skipBlanks.rest).outcome <;> rfl

end Moving

/-- The tokens of a moved text, or its error, are moved with it. -/
theorem tokens_shift (distance : Nat) (cursor : Cursor) :
    (cursor.shift distance).tokens =
      Token.followedBy [] distance cursor.tokens := by
  have moved := next_shift distance cursor
  cases found : cursor.next with
  | mk outcome following =>
      rw [found] at moved
      cases outcome with
      | error error =>
          rw [tokens_of_next_error found]
          exact tokens_of_next_error moved
      | ok token =>
          by_cases notEnd : token.isEnd = false
          · have shorter := length_rest_next_lt found notEnd
            rw [tokens_of_next found notEnd, tokens_of_next moved notEnd,
              tokens_shift]
            cases following.tokens <;> rfl
          · rw [tokens_of_next_end found notEnd,
              tokens_of_next_end moved notEnd]
            rfl
termination_by cursor.rest.length

/-- The tokens of a text at some place are those of the text by itself, moved to this place. -/
theorem tokens_mk (position : Nat) (text : List Char) :
    (Cursor.mk position text).tokens =
      Token.followedBy [] position (Cursor.start text).tokens := by
  have moved := tokens_shift position (Cursor.start text)
  rw [shift, start, Nat.zero_add] at moved
  exact moved

/-! ## The first token -/

section FirstToken

variable {position : Nat} {c : Char} {tail : List Char} {tokens : List Token}

/-- A text that has tokens and does not begin with a blank begins with the source of its first token. -/
theorem exists_source_of_tokens (notBlank : Text.isBlank c = false)
    (read : (Cursor.mk position (c :: tail)).tokens = .ok tokens) :
    ∃ lexeme word rest others,
      tail = word ++ rest ∧
      Lexeme.IsSource (c :: word) lexeme rest ∧
      (Cursor.mk (position + Text.byteLength (c :: word)) rest).tokens =
        .ok others ∧
      tokens = ⟨lexeme, position⟩ :: others := by
  have still :
      (Cursor.mk position (c :: tail)).skipBlanks =
        Cursor.mk position (c :: tail) :=
    skipBlanks_of_not_blank rfl notBlank
  cases scanned : Lexeme.scan (c :: tail) with
  | mk outcome length =>
      cases outcome with
      | error fault =>
          rw [tokens_of_next_error (next_of_faulty still scanned)] at read
          cases read
      | ok lexeme =>
          obtain ⟨source, rest, whole, _, written⟩ :=
            Lexeme.beginsWith_of_scan (List.cons_ne_nil c tail) scanned
          obtain ⟨first, word, rfl, _⟩ := written.exists_cons
          obtain ⟨rfl, rfl⟩ := List.cons.inj whole
          have begins := read.symm.trans (written.tokens_eq position)
          cases behind :
              (Cursor.mk (position + Text.byteLength (c :: word)) rest).tokens
              with
          | error error =>
              rw [behind] at begins
              cases begins
          | ok others =>
              rw [behind] at begins
              cases begins
              exact ⟨lexeme, word, rest, others, rfl, written, behind, rfl⟩

end FirstToken

/-! ## Positions -/

section Positions

/-- No token begins before the text, and each begins behind those in front of it. -/
theorem positions_of_tokens {text : List Char} {position : Nat}
    {tokens : List Token}
    (read : (Cursor.mk position text).tokens = .ok tokens) :
    (∀ token ∈ tokens, position ≤ token.position) ∧
      tokens.Pairwise fun token later => token.position < later.position := by
  match text with
  | [] =>
      rw [tokens_nil] at read
      cases read
      simp
  | c :: tail =>
      have positive := c.utf8Size_pos
      by_cases blank : Text.isBlank c = true
      · rw [tokens_blank blank] at read
        obtain ⟨behind, increasing⟩ := positions_of_tokens read
        refine ⟨fun token member => ?_, increasing⟩
        have bound := behind token member
        omega
      · have notBlank := eq_false_of_ne_true blank
        obtain ⟨lexeme, word, rest, others, rfl, _, othersRead, rfl⟩ :=
          exists_source_of_tokens notBlank read
        obtain ⟨behind, increasing⟩ := positions_of_tokens othersRead
        rw [Text.byteLength_cons] at behind
        constructor
        · intro token member
          rcases List.mem_cons.mp member with rfl | later
          · exact Nat.le_refl position
          · have bound := behind token later
            omega
        · refine List.pairwise_cons.mpr ⟨fun token member => ?_, increasing⟩
          have bound := behind token member
          change position < token.position
          omega
termination_by text.length

/-- The position of a token tells its place in the row. -/
theorem index_eq_of_position_eq {tokens : List Token}
    (increasing : tokens.Pairwise fun token later =>
      token.position < later.position)
    {index otherIndex : Nat} {token other : Token}
    (found : tokens[index]? = some token)
    (otherFound : tokens[otherIndex]? = some other)
    (same : other.position = token.position) : otherIndex = index := by
  obtain ⟨within, rfl⟩ := List.getElem?_eq_some_iff.mp found
  obtain ⟨otherWithin, rfl⟩ := List.getElem?_eq_some_iff.mp otherFound
  have ordered := List.pairwise_iff_getElem.mp increasing
  rcases Nat.lt_trichotomy otherIndex index with before | equal | behind
  · have less := ordered otherIndex index otherWithin within before
    omega
  · exact equal
  · have less := ordered index otherIndex within otherWithin behind
    omega

end Positions

/-! ## Joined texts -/

section Joined

theorem tokens_blanks {blanks : List Char}
    (blank : ∀ c ∈ blanks, Text.isBlank c = true) (rest : List Char) :
    ∀ position, (Cursor.mk position (blanks ++ rest)).tokens =
      (Cursor.mk (position + Text.byteLength blanks) rest).tokens := by
  induction blanks with
  | nil => exact fun _ => rfl
  | cons c others inductionHypothesis =>
      intro position
      have othersBlank : ∀ d ∈ others, Text.isBlank d = true :=
        fun d member => blank d (List.mem_cons_of_mem c member)
      rw [List.cons_append, tokens_blank (blank c List.mem_cons_self),
        inductionHypothesis othersBlank, Text.byteLength_cons, Nat.add_assoc]

/-- A text has the tokens that it has by itself also in front of another one that it joins, and the end
marker gives way to what stands behind. -/
theorem tokens_append {text rest : List Char}
    (joins : Lexeme.Joins text rest) {position : Nat} {tokens : List Token}
    (read : (Cursor.mk position text).tokens = .ok tokens) :
    ∃ before,
      tokens = before ++ [⟨.endOfQuery, position + Text.byteLength text⟩] ∧
      (∀ token ∈ before, token.isEnd = false) ∧
      (Cursor.mk position (text ++ rest)).tokens =
        (Cursor.mk (position + Text.byteLength text) rest).tokens.map
          (before ++ ·) := by
  match text with
  | [] =>
      rw [tokens_nil] at read
      cases read
      refine ⟨[], rfl, by simp, ?_⟩
      rw [List.nil_append, Text.byteLength_nil, Nat.add_zero]
      cases (Cursor.mk position rest).tokens <;> rfl
  | c :: tail =>
      by_cases blank : Text.isBlank c = true
      · rw [tokens_blank blank] at read
        have joinsAtBlank : Lexeme.Joins ([c] ++ tail) rest := joins
        obtain ⟨before, whole, noEnd, joined⟩ :=
          tokens_append joinsAtBlank.of_append read
        rw [Nat.add_assoc] at whole joined
        refine ⟨before, whole, noEnd, ?_⟩
        rw [List.cons_append, tokens_blank blank, joined]
        rfl
      · have notBlank := eq_false_of_ne_true blank
        obtain ⟨lexeme, word, behind, others, rfl, written, othersRead, rfl⟩ :=
          exists_source_of_tokens notBlank read
        have joinsAtWord : Lexeme.Joins ((c :: word) ++ behind) rest := joins
        obtain ⟨before, rfl, noEnd, joined⟩ :=
          tokens_append joinsAtWord.of_append othersRead
        -- The first source is one as before: the text behind it goes on, or joins what is written there.
        have still := written.append_of_joins joinsAtWord
        have length : Text.byteLength (c :: (word ++ behind)) =
            Text.byteLength (c :: word) + Text.byteLength behind :=
          Text.byteLength_append (c :: word) behind
        refine ⟨⟨lexeme, position⟩ :: before, ?_, ?_, ?_⟩
        · rw [length, Nat.add_assoc, List.cons_append]
        · exact List.forall_mem_cons.mpr ⟨written.isEnd, noEnd⟩
        · rw [length, ← Nat.add_assoc, List.cons_append, List.append_assoc,
            ← List.cons_append, still.tokens_eq, joined]
          cases (Cursor.mk _ rest).tokens <;> rfl
termination_by text.length

end Joined

end Cursor

namespace Token

/-! ## Joined queries -/

section Queries

variable {before : String} {tokens : List Token}

/-- The tokens of a query end with the end marker, which stands behind its last byte. -/
theorem exists_append_end (read : ofText before = .ok tokens) :
    ∃ others, tokens = others ++ [⟨.endOfQuery, before.utf8ByteSize⟩] ∧
      ∀ token ∈ others, token.isEnd = false := by
  have joins : Lexeme.Joins before.toList [] := Or.inl rfl
  obtain ⟨others, whole, noEnd, _⟩ := Cursor.tokens_append joins read
  rw [Nat.zero_add, Text.byteLength_toList] at whole
  exact ⟨others, whole, noEnd⟩

/-- A query in front of a text that it joins, in terms of the tokens of the text. -/
theorem ofText_append_of_joins {ending : Nat}
    (read : ofText before = .ok (tokens ++ [⟨.endOfQuery, ending⟩]))
    {rest : List Char} (joins : Lexeme.Joins before.toList rest) :
    ofText (before ++ String.ofList rest) =
      (Cursor.mk before.utf8ByteSize rest).tokens.map (tokens ++ ·) := by
  obtain ⟨others, whole, _, joined⟩ := Cursor.tokens_append joins read
  obtain ⟨rfl, _⟩ := List.append_inj' whole rfl
  rw [Nat.zero_add, Text.byteLength_toList] at joined
  rw [ofText, Cursor.start, String.toList_append, String.toList_ofList]
  exact joined

theorem map_append_followedBy (others : List Token) (start : Nat)
    (read : Except LexicalError (List Token)) :
    (followedBy others start read).map (tokens ++ ·) =
      followedBy (tokens ++ others) start read := by
  cases read with
  | error error => rfl
  | ok rest => simp only [followedBy, Except.map, List.append_assoc]

/-- The tokens of a query that begins at some byte of a longer one. -/
theorem tokens_at (start : Nat) (after : String) :
    (Cursor.mk start after.toList).tokens =
      followedBy [] start (ofText after) :=
  Cursor.tokens_mk start after.toList

theorem tokens_closeParen (position : Nat) (after : String) :
    (Cursor.mk position (')' :: after.toList)).tokens =
      followedBy [⟨.symbol .closeParen ")", position⟩] (position + 1)
        (ofText after) := by
  have first :=
    (@Lexeme.IsSource.closeParen after.toList).tokens_eq position
  rw [tokens_at] at first
  rw [← List.singleton_append, first]
  cases ofText after <;> rfl

/-- A query that is followed by blanks or a closing parenthesis keeps its tokens, and what stands behind
has its own tokens or its own error, moved by the bytes in front of it. -/
theorem ofText_append {ending : Nat}
    (read : ofText before = .ok (tokens ++ [⟨.endOfQuery, ending⟩])) :
    (∀ blanks after : String, blanks ≠ "" →
      (∀ c ∈ blanks.toList, Text.isBlank c = true) →
        ofText (before ++ blanks ++ after) =
          followedBy tokens (before ++ blanks).utf8ByteSize
            (ofText after)) ∧
    (∀ after : String,
      ofText (before ++ ")" ++ after) =
        followedBy
          (tokens ++ [⟨.symbol .closeParen ")", before.utf8ByteSize⟩])
          (before.utf8ByteSize + 1) (ofText after)) := by
  constructor
  · intro blanks after nonempty blank
    have alone : Lexeme.standsAlone (blanks.toList ++ after.toList) = true := by
      cases characters : blanks.toList with
      | nil => exact absurd (String.toList_eq_nil_iff.mp characters) nonempty
      | cons c others =>
          have first : c ∈ blanks.toList := by
            rw [characters]
            exact List.mem_cons_self
          simp [Lexeme.standsAlone, blank c first]
    have joined := ofText_append_of_joins read (Or.inl alone)
    rw [Cursor.tokens_blanks blank, tokens_at, map_append_followedBy,
      List.append_nil, Text.byteLength_toList, ← String.utf8ByteSize_append,
      String.ofList_append, String.ofList_toList, String.ofList_toList,
      ← String.append_assoc] at joined
    exact joined
  · intro after
    have alone : Lexeme.standsAlone (')' :: after.toList) = true := rfl
    have joined := ofText_append_of_joins read (Or.inl alone)
    have text : String.ofList (')' :: after.toList) = ")" ++ after := by
      rw [← List.singleton_append, String.ofList_append, String.ofList_toList]
    rw [tokens_closeParen, map_append_followedBy, text,
      ← String.append_assoc] at joined
    exact joined

theorem ofText_append_mark :
    ofText "!!" =
      .ok ([⟨.symbol (.noSignal .errorSuffix) "!!", 0⟩] ++
        [⟨.endOfQuery, 2⟩]) ∧
    ("\u00a0" ≠ "" ∧ (∀ c ∈ "\u00a0".toList, Text.isBlank c = true) ∧
      ofText ("!!" ++ "\u00a0" ++ "@") =
        .ok [⟨.symbol (.noSignal .errorSuffix) "!!", 0⟩,
          ⟨.symbol (.signal .runningAgent) "@", 4⟩, ⟨.endOfQuery, 5⟩]) ∧
    ofText ("!!" ++ ")" ++ "%") =
      .error ⟨.invalidStatusLetter none, 3⟩ := by
  have mark : (Cursor.start "!!".toList).next =
      (.ok ⟨.symbol (.noSignal .errorSuffix) "!!", 0⟩, ⟨2, []⟩) := rfl
  have sign : (Cursor.start "@".toList).next =
      (.ok ⟨.symbol (.signal .runningAgent) "@", 0⟩, ⟨1, []⟩) := rfl
  have letter : (Cursor.start "%".toList).next =
      (.error ⟨.invalidStatusLetter none, 0⟩, ⟨1, []⟩) := rfl
  have read : ofText "!!" =
      .ok ([⟨.symbol (.noSignal .errorSuffix) "!!", 0⟩] ++
        [⟨.endOfQuery, 2⟩]) := by
    rw [ofText, Cursor.tokens_of_next mark rfl, Cursor.tokens_nil]
    rfl
  have agent : ofText "@" =
      .ok [⟨.symbol (.signal .runningAgent) "@", 0⟩, ⟨.endOfQuery, 1⟩] := by
    rw [ofText, Cursor.tokens_of_next sign rfl, Cursor.tokens_nil]
    rfl
  have refused : ofText "%" = .error ⟨.invalidStatusLetter none, 0⟩ :=
    Cursor.tokens_of_next_error letter
  have blank : ∀ c ∈ "\u00a0".toList, Text.isBlank c = true := by
    intro c member
    obtain rfl := List.mem_singleton.mp member
    rfl
  obtain ⟨behindBlanks, behindClosing⟩ := ofText_append read
  refine ⟨read, ⟨by decide, blank, ?_⟩, ?_⟩
  · rw [behindBlanks "\u00a0" "@" (by decide) blank, agent]
    rfl
  · rw [behindClosing "%", refused]
    rfl

end Queries

end Token

end RecordQuery
