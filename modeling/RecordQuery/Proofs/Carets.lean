import RecordQuery.Proofs.FaultPlaces
import RecordQuery.Proofs.LexicalFaults
import RecordQuery.Proofs.TokenSpans
import RecordQuery.Text.Lines

/-!
# Carets below a query

An error in a query has a position between two characters, and the caret stands below the whole query, as
far in as there are characters in front of this position. Where the query is one line the caret stands
below the character that the error is about. Where it has several lines, the caret would belong directly
below the line of this character and be as far in as the character is in its line; the only queries of
several lines for which it is so show the error on their first line and go on in lines that look like the
caret line.
-/

namespace RecordQuery

open Text (lines byteLength)

/-! ## Positions of errors -/

section Positions

variable {query : String} {tokens : List Token} {token : Token}

theorem Token.position_isValid_of_mem (read : Token.ofText query = .ok tokens)
    (member : token ∈ tokens) :
    (String.Pos.Raw.mk token.position).IsValid query := by
  obtain ⟨index, listed⟩ := List.mem_iff_getElem?.mp member
  have found := Cursor.next_after_of_tokens read listed
  have lies := (Cursor.liesIn_start query).after index
  exact (lies.spans found).position_isValid

theorem LexicalError.position_isValid {error : LexicalError}
    (failed : Token.ofText query = .error error) :
    (String.Pos.Raw.mk error.position).IsValid query := by
  obtain ⟨count, _, _, _, _, shown⟩ := Cursor.exists_place_of_tokens_error failed
  have lies := (Cursor.liesIn_start query).after count
  have isValid := (Cursor.reading_next lies).answer_isValid
  rw [shown] at isValid
  exact isValid

/-- A grammar error shows at one of the tokens, the end marker being among them. -/
theorem Expr.exists_mem_of_error {error : GrammarError}
    (read : Token.ofText query = .ok tokens)
    (failed : Expr.ofTokens tokens = .error error) :
    ∃ token ∈ tokens, token.position = error.position := by
  obtain ⟨before, rest, rfl, noEnd, shown, _, _⟩ :=
    Expr.eq_append_of_ofTokens_error failed
  cases rest with
  | nil =>
      obtain ⟨others, ended, _⟩ := Token.exists_append_end read
      rw [List.append_nil] at ended
      have isEnd := noEnd ⟨.endOfQuery, query.utf8ByteSize⟩ (by simp [ended])
      cases isEnd
  | cons token behind =>
      refine ⟨token, by simp, ?_⟩
      rw [shown]
      rfl

/-- What is wrong with a query stands between two of its characters, or at an end of it. -/
theorem QueryError.position_isValid {error : QueryError}
    (failed : Expr.ofText query = .error error) :
    (String.Pos.Raw.mk error.diagnosis.position).IsValid query := by
  cases read : Token.ofText query with
  | error fault =>
      have isFault : error = .lexical fault := by
        rw [Expr.ofText, read] at failed
        exact (Except.error.inj failed).symm
      rw [isFault]
      exact LexicalError.position_isValid read
  | ok tokens =>
      rw [Expr.ofText_of_tokens read] at failed
      cases taken : Expr.ofTokens tokens with
      | ok expr =>
          rw [taken] at failed
          cases failed
      | error fault =>
          rw [taken] at failed
          obtain ⟨token, member, same⟩ := Expr.exists_mem_of_error read taken
          have isFault : error = .grammar fault := (Except.error.inj failed).symm
          have position : error.diagnosis.position = token.position := by
            rw [isFault, same]
            rfl
          rw [position]
          exact Token.position_isValid_of_mem read member

/-- The characters in front of an error, and those behind its position. -/
theorem QueryError.exists_append_of_error {error : QueryError}
    (failed : Expr.ofText query = .error error) :
    ∃ before after, query.toList = before ++ after ∧
      byteLength before = error.diagnosis.position := by
  obtain ⟨before, after, rfl, position⟩ :=
    String.Pos.Raw.isValid_iff_exists_append.mp
      (QueryError.position_isValid failed)
  refine ⟨before.toList, after.toList, String.toList_append, ?_⟩
  rw [Text.byteLength_toList]
  exact (congrArg String.Pos.Raw.byteIdx position).symm

end Positions

/-! ## The caret line -/

namespace Diagnosis

/-- A line with a caret that is `column` characters in. -/
def caretLine (column : Nat) : List Char :=
  List.replicate column ' ' ++ ['^']

/-- Whether a text shows another one with a caret line directly below the line of the place between
`before` and `after`, as far in as this place is in its line. -/
def CaretBelow (before after shown : List Char) : Prop :=
  ∃ above start rest below,
    lines before = above ++ [start] ∧ lines after = rest :: below ∧
    lines shown = above ++ [start ++ rest, caretLine start.length] ++ below

section CaretLine

variable {before after : List Char} {column : Nat}

theorem lineFeed_not_mem_caretLine (column : Nat) :
    '\n' ∉ caretLine column := by
  simp [caretLine]

theorem caretLine_inj {other : Nat} (same : caretLine column = caretLine other) :
    column = other := by
  have lengths := congrArg List.length same
  simpa [caretLine] using lengths

theorem charactersBefore_append (before after : List Char) :
    charactersBefore (byteLength before) (before ++ after) = before.length := by
  induction before with
  | nil => cases after <;> rfl
  | cons c rest inductionHypothesis =>
      have positive := c.utf8Size_pos
      have notZero : byteLength (c :: rest) ≠ 0 := by
        rw [Text.byteLength_cons]
        omega
      rw [List.cons_append, charactersBefore, if_neg notZero,
        Text.byteLength_cons, Nat.add_sub_cancel_left, inductionHypothesis,
        List.length_cons, Nat.add_comm]

theorem toList_caret {diagnosis : Diagnosis} {query : String}
    (whole : query.toList = before ++ after)
    (position : byteLength before = diagnosis.position) :
    (diagnosis.caret query).toList =
      query.toList ++ '\n' :: caretLine before.length := by
  have column : charactersBefore diagnosis.position query.toList =
      before.length := by
    rw [whole, ← position, charactersBefore_append]
  rw [caret, column]
  simp [caretLine]

/-- The last line of a text is shorter than the text, unless it is all of it. -/
theorem lineFeed_not_mem_of_length_eq {above : List (List Char)} {start : List Char}
    (divided : lines before = above ++ [start])
    (same : before.length = start.length) : '\n' ∉ before := by
  obtain ⟨last, unbroken, rfl | ⟨front, rfl⟩⟩ := Text.exists_last_line before
  · exact unbroken
  · rw [Text.lines_append_lineFeed, Text.lines_of_no_lineFeed unbroken] at divided
    obtain ⟨_, isLast⟩ := List.append_inj' divided rfl
    obtain rfl := List.singleton_inj.mp isLast
    rw [List.length_append, List.length_cons] at same
    omega

theorem concat_eq_cons_iff {α : Type} {last first : α} {items : List α} :
    items ++ [last] = first :: items ↔
      last = first ∧ ∀ item ∈ items, item = first := by
  induction items generalizing first with
  | nil => simp
  | cons item items inductionHypothesis =>
      rw [List.cons_append, List.cons.injEq, inductionHypothesis,
        List.forall_mem_cons]
      constructor
      · rintro ⟨rfl, same, others⟩
        exact ⟨same, rfl, others⟩
      · rintro ⟨same, rfl, others⟩
        exact ⟨rfl, same, others⟩

/-- The caret line below a whole text is directly below the line of a place, and as far in as this, just
if the place is on the first line and each further line is the same as the caret line. -/
theorem caretBelow_iff (before after : List Char) :
    CaretBelow before after
        (before ++ after ++ '\n' :: caretLine before.length) ↔
      '\n' ∉ before ∧
        ∀ line ∈ (lines after).tail, line = caretLine before.length := by
  have last := Text.lines_of_no_lineFeed (lineFeed_not_mem_caretLine before.length)
  have shown : lines (before ++ after ++ '\n' :: caretLine before.length) =
      lines (before ++ after) ++ [caretLine before.length] := by
    rw [Text.lines_append_lineFeed, last]
  constructor
  · rintro ⟨above, start, rest, below, first, second, placed⟩
    rw [shown, Text.lines_append first second, List.append_assoc,
      List.append_assoc, List.append_cancel_left_eq] at placed
    have same := (List.cons.inj placed).2
    obtain ⟨sameLine, others⟩ := concat_eq_cons_iff.mp same
    rw [second, sameLine]
    exact ⟨lineFeed_not_mem_of_length_eq first (caretLine_inj sameLine), others⟩
  · rintro ⟨unbroken, others⟩
    have first := Text.lines_of_no_lineFeed unbroken
    obtain ⟨rest, below, second⟩ :=
      List.exists_cons_of_ne_nil (Text.lines_ne_nil after)
    rw [second] at others
    refine ⟨[], before, rest, below, first, second, ?_⟩
    rw [shown, Text.lines_append_of_no_lineFeed unbroken second]
    have behind : below ++ [caretLine before.length] =
        caretLine before.length :: below :=
      concat_eq_cons_iff.mpr ⟨rfl, others⟩
    rw [List.cons_append, behind]
    rfl

end CaretLine

/-! ## Queries -/

section Queries

/-- The caret below a query that is refused is as far in as there are characters in front of the error. It
points at the character of the error, and does so in a query of one line; in a query of several lines,
only if the error is on the first one and each other line reads as the caret line does. -/
theorem caret_of_error {query : String} {error : QueryError}
    (failed : Expr.ofText query = .error error) :
    ∃ before after,
      query.toList = before ++ after ∧
      byteLength before = error.diagnosis.position ∧
      (error.diagnosis.caret query).toList =
        query.toList ++ '\n' :: caretLine before.length ∧
      ('\n' ∉ query.toList →
        CaretBelow before after (error.diagnosis.caret query).toList) ∧
      (CaretBelow before after (error.diagnosis.caret query).toList ↔
        '\n' ∉ before ∧
          ∀ line ∈ (lines after).tail, line = caretLine before.length) := by
  obtain ⟨before, after, whole, position⟩ :=
    QueryError.exists_append_of_error failed
  have shown := toList_caret whole position
  have below := caretBelow_iff before after
  rw [← whole, ← shown] at below
  refine ⟨before, after, whole, position, shown, ?_, below⟩
  intro oneLine
  rw [whole, List.mem_append, not_or] at oneLine
  refine below.mpr ⟨oneLine.1, ?_⟩
  rw [Text.lines_of_no_lineFeed oneLine.2]
  simp

/-- The quoted letter has two bytes and one column. -/
theorem caret_of_error_accent :
    Expr.ofText "\"é\" )" =
      .error (.grammar ⟨.afterExpression, .symbol .closeParen ")", 5⟩) ∧
    ∃ before after,
      "\"é\" )".toList = before ++ after ∧ byteLength before = 5 ∧
      CaretBelow before after
        (caret ⟨.parse, "Unexpected ')' after complete expression", 5⟩
          "\"é\" )").toList := by
  have quoted : (Cursor.start "\"é\" )".toList).next =
      (.ok ⟨.string "é" false, 0⟩, ⟨4, " )".toList⟩) := rfl
  have paren : (Cursor.mk 4 " )".toList).next =
      (.ok ⟨.symbol .closeParen ")", 5⟩, ⟨6, []⟩) := rfl
  have read : Token.ofText "\"é\" )" = .ok [⟨.string "é" false, 0⟩,
      ⟨.symbol .closeParen ")", 5⟩, ⟨.endOfQuery, 6⟩] := by
    rw [Token.ofText, Cursor.tokens_of_next quoted rfl,
      Cursor.tokens_of_next paren rfl, Cursor.tokens_nil]
    rfl
  have failed : Expr.ofText "\"é\" )" =
      .error (.grammar ⟨.afterExpression, .symbol .closeParen ")", 5⟩) := by
    rw [Expr.ofText_of_tokens read]
    rfl
  obtain ⟨before, after, whole, position, _, oneLine, _⟩ :=
    caret_of_error failed
  exact ⟨failed, before, after, whole, position, oneLine (by decide)⟩

/-- The parenthesis on the second line is its first character, and the caret is two characters in. -/
theorem not_caretBelow_of_second_line :
    Expr.ofText "a\n)" =
      .error (.grammar ⟨.afterExpression, .symbol .closeParen ")", 2⟩) ∧
    "a\n)".toList = ['a', '\n'] ++ [')'] ∧ byteLength ['a', '\n'] = 2 ∧
    ¬ CaretBelow ['a', '\n'] [')']
      (caret ⟨.parse, "Unexpected ')' after complete expression", 2⟩
        "a\n)").toList := by
  have word : (Cursor.start "a\n)".toList).next =
      (.ok ⟨.string "a" false, 0⟩, ⟨1, "\n)".toList⟩) := rfl
  have paren : (Cursor.mk 1 "\n)".toList).next =
      (.ok ⟨.symbol .closeParen ")", 2⟩, ⟨3, []⟩) := rfl
  have read : Token.ofText "a\n)" = .ok [⟨.string "a" false, 0⟩,
      ⟨.symbol .closeParen ")", 2⟩, ⟨.endOfQuery, 3⟩] := by
    rw [Token.ofText, Cursor.tokens_of_next word rfl,
      Cursor.tokens_of_next paren rfl, Cursor.tokens_nil]
    rfl
  have failed : Expr.ofText "a\n)" =
      .error (.grammar ⟨.afterExpression, .symbol .closeParen ")", 2⟩) := by
    rw [Expr.ofText_of_tokens read]
    rfl
  refine ⟨failed, by decide, by decide, fun below => ?_⟩
  have shown : (caret ⟨.parse, "Unexpected ')' after complete expression", 2⟩
      "a\n)").toList =
        ['a', '\n'] ++ [')'] ++ '\n' :: caretLine ['a', '\n'].length := by
    decide
  rw [shown, caretBelow_iff] at below
  exact below.1 (by decide)

end Queries

end Diagnosis

end RecordQuery
