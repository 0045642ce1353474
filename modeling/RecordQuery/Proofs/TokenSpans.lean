import Mathlib.Data.String.Basic
import RecordQuery.Proofs.Concatenation
import RecordQuery.Proofs.ReadingOn

/-!
# Spans of tokens

Reading the tokens of a query loses nothing of it. The places between the readings divide the query into
spans, each of which consists of blanks and the source of one token. A symbol or a bare word is its
source, and every token is read again, from the same source, where the query begins with it.
-/

namespace RecordQuery

/-! ## Parts of a text -/

namespace Text

section Between

/-- The part of a text between two byte positions. -/
def between (text : String) (first last : Nat) : String :=
  String.Pos.Raw.extract text ⟨first⟩ ⟨last⟩

variable {text : String} {before part after : List Char}

theorem utf8Len_eq_byteLength (characters : List Char) :
    String.utf8Len characters = byteLength characters := by
  induction characters with
  | nil => rfl
  | cons c rest inductionHypothesis =>
      rw [String.utf8Len_cons, byteLength_cons, inductionHypothesis,
        Nat.add_comm]

theorem between_of_split (whole : text.toList = before ++ part ++ after) :
    between text (byteLength before) (byteLength before + byteLength part) =
      String.ofList part := by
  have split : text = String.ofList (before ++ part ++ after) := by
    rw [← whole, String.ofList_toList]
  rw [between, split, ← utf8Len_eq_byteLength, ← utf8Len_eq_byteLength]
  exact String.extract_of_valid before part after

theorem between_to_end (whole : text.toList = before ++ part) :
    between text (byteLength before) text.utf8ByteSize = String.ofList part := by
  have size : text.utf8ByteSize = byteLength before + byteLength part := by
    rw [← byteLength_toList, whole, byteLength_append]
  have nothingBehind : text.toList = before ++ part ++ [] := by
    rw [List.append_nil]
    exact whole
  rw [size]
  exact between_of_split nothingBehind

end Between

end Text

/-! ## Lexemes and their sources -/

namespace Lexeme

/-- Whether a source is that of a quoted string, with or without regard to case. -/
def isQuoted (source : List Char) : Bool :=
  ['"'].isPrefixOf source || ['c', '"'].isPrefixOf source

/-- Whether a lexeme keeps its source as its text, as all do but quoted strings and properties. -/
def KeepsSource (source : List Char) : Lexeme → Prop
  | symbol _ spelling => source = spelling.toList
  | string value caseSensitive =>
      isQuoted source = false → source = value.toList ∧ caseSensitive = false
  | property _ _ => True
  | endOfQuery => source = []

/-- A source is kept by its lexeme, unless this is a quoted string or a property. -/
theorem IsSource.keepsSource {source rest : List Char} {lexeme : Lexeme}
    (written : IsSource source lexeme rest) : lexeme.KeepsSource source := by
  have kept : ∀ (meaning : Symbol) (spelling : List Char),
      KeepsSource spelling (symbol meaning (String.ofList spelling)) :=
    fun _ _ => String.toList_ofList.symm
  cases written with
  | openParen => exact kept .openParen ['(']
  | closeParen => exact kept .closeParen [')']
  | string => exact fun unquoted => nomatch unquoted
  | sensitiveString => exact fun unquoted => nomatch unquoted
  | mark asked => exact kept _ _
  | sign asked => exact kept _ _
  | absenceMark asked => exact kept _ _
  | anySignal => exact kept .anySignal ['*']
  | negation => exact kept .not ['!']
  | status => exact True.intro
  | sigil => exact True.intro
  | property => exact True.intro
  | quotedProperty => exact True.intro
  | word =>
      unfold ofWord
      split
      · exact kept _ _
      · exact kept _ _
      · exact kept _ _
      · exact fun _ => ⟨String.toList_ofList.symm, rfl⟩

theorem keepsSource_of_scan {word behind : List Char} {lexeme : Lexeme}
    (found : scan (word ++ behind) = .found lexeme word.length) :
    lexeme.KeepsSource word := by
  cases word with
  | cons c tail =>
      exact ((scan_eq_found_iff (List.cons_ne_nil c tail)).mp found).keepsSource
  | nil =>
      cases behind with
      | nil =>
          obtain ⟨rfl, _⟩ := found_inj found
          rfl
      | cons c tail =>
          obtain ⟨source, rest, _, empty, written⟩ :=
            beginsWith_of_scan (List.cons_ne_nil c tail) found
          obtain ⟨d, others, rfl, _⟩ := written.exists_cons
          cases empty

end Lexeme

/-! ## One token -/

/-- What holds of a token that is read behind the byte `previous` of a query, up to the byte `ending`:
nothing but blanks stands in front of it, what it keeps is its source, and a query that begins with it
has it as its first token, with the same source. -/
structure Token.Spans (query : String) (previous : Nat) (token : Token)
    (ending : Nat) : Prop where
  position_isValid : (String.Pos.Raw.mk token.position).IsValid query
  ending_isValid : (String.Pos.Raw.mk ending).IsValid query
  previous_le : previous ≤ token.position
  blanks : ∀ c ∈ (Text.between query previous token.position).toList,
    Text.isBlank c = true
  position_le : token.position ≤ ending
  position_lt : token.isEnd = false → token.position < ending
  keepsSource :
    token.lexeme.KeepsSource (Text.between query token.position ending).toList
  read_again :
    (Cursor.start
        (Text.between query token.position query.utf8ByteSize).toList).next =
      (.ok ⟨token.lexeme, 0⟩,
        ⟨ending - token.position,
          (Text.between query ending query.utf8ByteSize).toList⟩)

namespace Cursor

section OneToken

/-- The first token of a text that does not begin with a blank. -/
theorem next_start_of_found {word behind : List Char} {lexeme : Lexeme}
    (notBlank : ∀ c rest, word ++ behind = c :: rest → Text.isBlank c = false)
    (found : Lexeme.scan (word ++ behind) = .found lexeme word.length) :
    (start (word ++ behind)).next =
      (.ok ⟨lexeme, 0⟩, ⟨Text.byteLength word, behind⟩) := by
  have still : (start (word ++ behind)).skipBlanks = start (word ++ behind) := by
    cases begins : word ++ behind with
    | nil => rfl
    | cons c rest =>
        exact skipBlanks_of_not_blank rfl (notBlank c rest begins)
  rw [next_of_found still found, advance_of_append rfl]
  simp [start]

end OneToken

end Cursor

namespace Token

section Division

variable {query : String} {before blanks word behind : List Char}
  {lexeme : Lexeme}

/-- The characters behind some blanks that are used up by a scan are those that its lexeme spans. -/
theorem spans_of_split
    (whole : query.toList = before ++ blanks ++ word ++ behind)
    (allBlank : ∀ c ∈ blanks, Text.isBlank c = true)
    (notBlank : ∀ c rest, word ++ behind = c :: rest → Text.isBlank c = false)
    (found : Lexeme.scan (word ++ behind) = .found lexeme word.length) :
    Spans query (Text.byteLength before)
      ⟨lexeme, Text.byteLength before + Text.byteLength blanks⟩
      (Text.byteLength before + Text.byteLength blanks +
        Text.byteLength word) := by
  have wholeAtWord : query.toList = before ++ blanks ++ (word ++ behind) := by
    rw [whole, List.append_assoc _ word]
  have first : Cursor.LiesIn
      ⟨Text.byteLength (before ++ blanks), word ++ behind⟩ query :=
    ⟨_, wholeAtWord, rfl⟩
  have last : Cursor.LiesIn
      ⟨Text.byteLength (before ++ blanks ++ word), behind⟩ query :=
    ⟨_, whole, rfl⟩
  have fromWord := Text.between_to_end wholeAtWord
  have fromBehind := Text.between_to_end whole
  have source := Text.between_of_split whole
  simp only [Text.byteLength_append] at first last fromWord fromBehind source
  constructor
  · exact first.isValid
  · exact last.isValid
  · exact Nat.le_add_right _ _
  · rw [Text.between_of_split wholeAtWord, String.toList_ofList]
    exact allBlank
  · exact Nat.le_add_right _ _
  · intro notEnd
    have isOk : (Lexeme.scan (word ++ behind)).outcome = .ok lexeme := by
      rw [found]
      rfl
    have progress := (Lexeme.scan_progress isOk notEnd).2
    rw [found] at progress
    have bytes := Text.length_le_byteLength word
    exact Nat.lt_add_of_pos_right (Nat.lt_of_lt_of_le progress bytes)
  · rw [source, String.toList_ofList]
    exact Lexeme.keepsSource_of_scan found
  · rw [fromWord, fromBehind, String.toList_ofList, String.toList_ofList,
      Nat.add_sub_cancel_left]
    exact Cursor.next_start_of_found notBlank found

end Division

end Token

namespace Cursor

section OneToken

variable {cursor : Cursor} {query : String} {token : Token}

/-- A token that is read at a place in a query spans the characters behind the blanks, up to the place
where the reading ends. -/
theorem LiesIn.spans (lies : cursor.LiesIn query)
    (read : cursor.next.1 = .ok token) :
    token.Spans query cursor.position cursor.next.2.position := by
  obtain ⟨lexeme, length, found, rfl, there⟩ := scan_of_next read
  obtain ⟨before, whole, position⟩ := lies
  obtain ⟨⟨blanks, left, allBlank, first⟩, notBlank⟩ :=
    blanksUpTo_skipBlanks cursor
  obtain ⟨word, behind, begins, rfl⟩ := Lexeme.exists_append_of_scan found
  rw [left, begins, ← List.append_assoc, ← List.append_assoc] at whole
  rw [begins] at notBlank found
  rw [there, advance_of_append begins, first, position]
  exact Token.spans_of_split whole allBlank notBlank found

end OneToken

/-! ## All tokens -/

section AllTokens

variable {cursor : Cursor} {tokens : List Token}

/-- The first of the tokens that are read is the next one, and the others are those behind it. -/
theorem next_of_tokens (read : cursor.tokens = .ok tokens) :
    ∃ token others, tokens = token :: others ∧
      cursor.next.1 = .ok token ∧
      (others = [] ∨ cursor.next.2.tokens = .ok others) := by
  rw [tokens_eq] at read
  cases found : cursor.next with
  | mk outcome following =>
      rw [found] at read
      cases outcome with
      | error error => cases read
      | ok token =>
          dsimp only at read
          split at read
          · cases behind : following.tokens with
            | error error =>
                rw [behind] at read
                cases read
            | ok others =>
                rw [behind] at read
                cases read
                exact ⟨token, others, rfl, rfl, Or.inr rfl⟩
          · cases read
            exact ⟨token, [], rfl, rfl, Or.inl rfl⟩

/-- The tokens of a text are the answers of readings in a row. -/
theorem next_after_of_tokens {index : Nat} {token : Token}
    (read : cursor.tokens = .ok tokens) (listed : tokens[index]? = some token) :
    (cursor.after index).next.1 = .ok token := by
  induction index generalizing cursor tokens with
  | zero =>
      obtain ⟨first, others, rfl, found, _⟩ := next_of_tokens read
      cases listed
      exact found
  | succ index inductionHypothesis =>
      obtain ⟨first, others, rfl, _, behind⟩ := next_of_tokens read
      rw [List.getElem?_cons_succ] at listed
      rcases behind with rfl | readBehind
      · cases listed
      · rw [after_succ]
        exact inductionHypothesis readBehind listed

end AllTokens

end Cursor

namespace Token

section Queries

variable {query : String} {tokens : List Token}

/-- The byte of a query up to which its first `count` tokens are read. -/
def stop (query : String) (count : Nat) : Nat :=
  ((Cursor.start query.toList).after count).position

/-- The tokens of a query lose nothing of it. Only the last one is the end marker, behind the last byte.
Each token begins behind those in front of it and spans its source, with nothing but blanks between the
stop of the token before, or the beginning of the query, and its own position. -/
theorem spans_of_ofText (read : ofText query = .ok tokens) :
    (∃ others, tokens = others ++ [⟨.endOfQuery, query.utf8ByteSize⟩] ∧
      ∀ token ∈ others, token.isEnd = false) ∧
    (tokens.Pairwise fun token later => token.position < later.position) ∧
    stop query 0 = 0 ∧
    ∀ (index : Nat) (token : Token), tokens[index]? = some token →
      token.Spans query (stop query index) (stop query (index + 1)) := by
  refine ⟨exists_append_end read, (Cursor.positions_of_tokens read).2, rfl, ?_⟩
  intro index token listed
  have found := Cursor.next_after_of_tokens read listed
  have lies := (Cursor.liesIn_start query).after index
  exact lies.spans found

/-- The absence mark ends at the blank behind it. The quoted letter has two bytes, so that the string
ends, with its quotes, four bytes behind its beginning. -/
theorem spans_of_ofText_mark_and_quote :
    ofText "!@ \"é\"" =
      .ok [⟨.symbol (.noSignal .runningAgent) "!@", 0⟩,
        ⟨.string "é" false, 3⟩, ⟨.endOfQuery, 7⟩] ∧
    Spans "!@ \"é\"" 0 ⟨.symbol (.noSignal .runningAgent) "!@", 0⟩ 2 ∧
    Spans "!@ \"é\"" 2 ⟨.string "é" false, 3⟩ 7 ∧
    Spans "!@ \"é\"" 7 ⟨.endOfQuery, 7⟩ 7 := by
  have mark : (Cursor.start "!@ \"é\"".toList).next =
      (.ok ⟨.symbol (.noSignal .runningAgent) "!@", 0⟩,
        ⟨2, " \"é\"".toList⟩) := rfl
  have quoted : (Cursor.mk 2 " \"é\"".toList).next =
      (.ok ⟨.string "é" false, 3⟩, ⟨7, []⟩) := rfl
  have read : ofText "!@ \"é\"" =
      .ok [⟨.symbol (.noSignal .runningAgent) "!@", 0⟩,
        ⟨.string "é" false, 3⟩, ⟨.endOfQuery, 7⟩] := by
    rw [ofText, Cursor.tokens_of_next mark rfl,
      Cursor.tokens_of_next quoted rfl, Cursor.tokens_nil]
    rfl
  obtain ⟨_, _, _, spans⟩ := spans_of_ofText read
  exact ⟨read, spans 0 _ rfl, spans 1 _ rfl, spans 2 _ rfl⟩

end Queries

end Token

end RecordQuery
