import RecordQuery.Proofs.Concatenation
import RecordQuery.Proofs.Depths
import RecordQuery.Proofs.RoundTrip

/-!
# Composed queries

Queries in parentheses can be put together to larger queries: side by side, joined by AND or OR, or
behind a negation. The expression of the whole is made up of theirs, as long as the levels that the
parentheses and the negation add leave every lexeme within the limit.
-/

namespace RecordQuery

/-! ## Rows of queries -/

section Rows

namespace Lexeme

/-- A text has the same lexemes wherever it stands. -/
theorem rowOf_of_tokens {text : List Char} {position : Nat}
    {tokens : List Token} (read : (Cursor.mk position text).tokens = .ok tokens) :
    RowOf text (tokens.map Token.lexeme) := by
  rw [Cursor.tokens_mk] at read
  intro start
  rw [Cursor.tokens_mk]
  cases first : (Cursor.start text).tokens with
  | error error =>
      rw [first] at read
      cases read
  | ok others =>
      rw [first] at read
      cases read
      refine ⟨_, rfl, ?_⟩
      simp only [List.nil_append, List.map_map]
      rfl

theorem rowOf_ofText {query : String} {tokens : List Token}
    (read : Token.ofText query = .ok tokens) :
    RowOf query.toList (tokens.map Token.lexeme) :=
  rowOf_of_tokens read

section Appended

variable {text rest : List Char} {lexemes : List Lexeme}

/-- A row in front of a text that it joins goes on with the row of this text. -/
theorem rowOf_append {others : List Lexeme}
    (row : RowOf text (lexemes ++ [.endOfQuery])) (joins : Joins text rest)
    (behind : RowOf rest others) : RowOf (text ++ rest) (lexemes ++ others) := by
  intro position
  obtain ⟨tokens, read, spelled⟩ := row position
  obtain ⟨before, rfl, _, joined⟩ := Cursor.tokens_append joins read
  obtain ⟨following, followingRead, rfl⟩ :=
    behind (position + Text.byteLength text)
  rw [List.map_append] at spelled
  obtain ⟨rfl, _⟩ := List.append_inj' spelled rfl
  rw [joined, followingRead]
  exact ⟨_, rfl, List.map_append⟩

/-- A row of joined texts consists of the rows of the two. -/
theorem exists_row_of_append {whole : List Lexeme}
    (row : RowOf text (lexemes ++ [.endOfQuery])) (joins : Joins text rest)
    (wholeRow : RowOf (text ++ rest) whole) :
    ∃ others, whole = lexemes ++ others ∧ RowOf rest others := by
  obtain ⟨tokens, read, spelled⟩ := row 0
  obtain ⟨all, allRead, rfl⟩ := wholeRow 0
  obtain ⟨before, rfl, _, joined⟩ := Cursor.tokens_append joins read
  rw [List.map_append] at spelled
  obtain ⟨rfl, _⟩ := List.append_inj' spelled rfl
  rw [joined] at allRead
  cases behind :
      (Cursor.mk (0 + Text.byteLength text) rest).tokens with
  | error error =>
      rw [behind] at allRead
      cases allRead
  | ok others =>
      rw [behind] at allRead
      cases allRead
      exact ⟨_, List.map_append, rowOf_of_tokens behind⟩

end Appended

end Lexeme

end Rows

namespace Expr

/-! ## Queries in parentheses -/

section Parentheses

/-- The depths of the lexemes of a query. -/
def textDepths (query : String) : List Nat :=
  match Token.ofText query with
  | .ok tokens =>
      depths ((tokens.takeWhile (!·.isEnd)).map Token.lexeme)
  | .error _ => []

/-- A query in parentheses is an operand, whatever follows. -/
structure Grouped (query : String) (expr : Expr) (lexemes : List Lexeme)
    (nesting : Nat) : Prop where
  operand : Operand lexemes expr nesting
  row : ∀ {rest : List Char} {others : List Lexeme},
    Lexeme.RowOf rest others →
      Lexeme.RowOf (parenthesize query.toList ++ rest) (lexemes ++ others)
  deepest : Deepest ((textDepths query).map (· + 1)) nesting

theorem grouped_of_ofText {query : String} {expr : Expr}
    (accepted : ofText query = .ok expr) :
    ∃ lexemes nesting, Grouped query expr lexemes nesting := by
  obtain ⟨tokens, nesting, read, _, spelled⟩ := spells_of_ofText accepted
  obtain ⟨before, rfl, noEnd⟩ := Token.exists_append_end read
  have row := Lexeme.rowOf_ofText read
  rw [List.map_append] at row
  have textual : textDepths query = depths (before.map Token.lexeme) := by
    rw [textDepths, read]
    exact congrArg (fun row => depths (row.map Token.lexeme))
      (takeWhile_not_isEnd noEnd _)
  rw [takeWhile_not_isEnd noEnd] at spelled
  have deepest := spelled.deepest.lower 1
  rw [← textual] at deepest
  obtain ⟨exprs, disjunction, rfl⟩ := spelled
  refine ⟨_, nesting + 1, .paren "(" ")" disjunction, fun behind => ?_, deepest⟩
  have whole := Lexeme.rowOf_parenthesize
    (fun alone => Lexeme.rowOf_append row (Or.inl alone)) behind
  simpa using whole

end Parentheses

/-! ## Compositions -/

section Compositions

/-- A text is read as an expression with a certain meaning if none of the given depths exceeds the limit,
and it is refused as nested too deeply otherwise. -/
structure ReadAs (text : String) (depths : List Nat) (expr : Expr)
    (meaning : Option Lineage → Record → Bool) : Prop where
  shallow : (∀ depth ∈ depths, depth ≤ nestingLimit) → ofText text = .ok expr
  deep : (∃ depth ∈ depths, nestingLimit < depth) →
    ∃ error : GrammarError, ofText text = .error (.grammar error) ∧
      error.message = "Query nested too deeply"
  holds : ∀ lineage record, expr.holds lineage record = meaning lineage record

variable {text : String} {lexemes : List Lexeme} {expr : Expr}
  {nesting : Nat} {depths : List Nat}
  {meaning : Option Lineage → Record → Bool}

theorem readAs_of_spells
    (row : Lexeme.RowOf text.toList (lexemes ++ [.endOfQuery]))
    (spelled : Spells lexemes expr nesting) (deepest : Deepest depths nesting)
    (holds : ∀ lineage record,
      expr.holds lineage record = meaning lineage record) :
    ReadAs text depths expr meaning := by
  refine ⟨fun shallow => ?_, fun deep => ?_, holds⟩
  · have within := (deepest.forall_le_iff nestingLimit).mp shallow
    have accepted := ofText_of_spells_of_le row spelled within
    rw [String.ofList_toList] at accepted
    exact accepted
  · have exceeded := (deepest.exists_lt_iff nestingLimit).mp deep
    have refused := ofText_of_spells_of_lt row spelled exceeded
    rw [String.ofList_toList] at refused
    exact refused

/-- An operand by itself, as a query. -/
theorem Operand.spells (operand : Operand lexemes expr nesting) :
    Spells lexemes expr nesting :=
  ⟨[expr], .single (.single operand), rfl⟩

end Compositions

section Joined

variable {left right : String} {expr other : Expr}
  {lexemes others : List Lexeme} {nesting nesting' : Nat}

theorem readAs_group (grouped : Grouped left expr lexemes nesting) :
    ReadAs ("(" ++ left ++ ")") ((textDepths left).map (· + 1)) expr
      (fun lineage record => expr.holds lineage record) := by
  have row := grouped.row Lexeme.rowOf_nil
  refine readAs_of_spells ?_ grouped.operand.spells grouped.deepest
    fun _ _ => rfl
  simpa [parenthesize] using row

/-- The depths of two queries, each in parentheses. -/
theorem deepest_both (grouped : Grouped left expr lexemes nesting)
    (otherGrouped : Grouped right other others nesting') :
    Deepest ((textDepths left ++ textDepths right).map (· + 1))
      (max nesting nesting') := by
  rw [List.map_append]
  exact grouped.deepest.append otherGrouped.deepest

theorem readAs_and (grouped : Grouped left expr lexemes nesting)
    (otherGrouped : Grouped right other others nesting') :
    ReadAs ("(" ++ left ++ ") AND (" ++ right ++ ")")
      ((textDepths left ++ textDepths right).map (· + 1)) (and [expr, other])
      (fun lineage record =>
        expr.holds lineage record && other.holds lineage record) := by
  have conjunction :=
    Conjunction.joined "AND" (.single grouped.operand) otherGrouped.operand
  have word :=
    Lexeme.rowOf_keyword .and (otherGrouped.row Lexeme.rowOf_nil)
  have row := grouped.row (Lexeme.rowOf_blank (c := ' ') rfl word)
  refine readAs_of_spells ?_ ⟨_, .single conjunction, rfl⟩
    (deepest_both grouped otherGrouped) fun lineage record => ?_
  · simpa [parenthesize] using row
  · simp [holds, allHold]

theorem readAs_adjacent (grouped : Grouped left expr lexemes nesting)
    (otherGrouped : Grouped right other others nesting') :
    ReadAs ("(" ++ left ++ ") (" ++ right ++ ")")
      ((textDepths left ++ textDepths right).map (· + 1)) (and [expr, other])
      (fun lineage record =>
        expr.holds lineage record && other.holds lineage record) := by
  have conjunction :=
    Conjunction.adjacent (.single grouped.operand) otherGrouped.operand
  have behind := otherGrouped.row Lexeme.rowOf_nil
  have row := grouped.row (Lexeme.rowOf_blank (c := ' ') rfl behind)
  refine readAs_of_spells ?_ ⟨_, .single conjunction, rfl⟩
    (deepest_both grouped otherGrouped) fun lineage record => ?_
  · simpa [parenthesize] using row
  · simp [holds, allHold]

theorem readAs_or (grouped : Grouped left expr lexemes nesting)
    (otherGrouped : Grouped right other others nesting') :
    ReadAs ("(" ++ left ++ ") OR (" ++ right ++ ")")
      ((textDepths left ++ textDepths right).map (· + 1)) (or [expr, other])
      (fun lineage record =>
        expr.holds lineage record || other.holds lineage record) := by
  have disjunction :=
    Disjunction.joined "OR" (.single (.single grouped.operand))
      (.single otherGrouped.operand)
  have word :=
    Lexeme.rowOf_keyword .or (otherGrouped.row Lexeme.rowOf_nil)
  have row := grouped.row (Lexeme.rowOf_blank (c := ' ') rfl word)
  refine readAs_of_spells ?_ ⟨_, disjunction, rfl⟩
    (deepest_both grouped otherGrouped) fun lineage record => ?_
  · simpa [parenthesize] using row
  · simp [holds, anyHolds]

/-- A negation and a parenthesis each add a level. -/
theorem deepest_negated (grouped : Grouped left expr lexemes nesting) :
    Deepest ((textDepths left).map (· + 2)) (nesting + 1) := by
  have deepest := grouped.deepest.lower 1
  rw [List.map_map] at deepest
  exact deepest

theorem readAs_not (grouped : Grouped left expr lexemes nesting) :
    ReadAs ("NOT (" ++ left ++ ")") ((textDepths left).map (· + 2)) (not expr)
      (fun lineage record => !expr.holds lineage record) := by
  have operand := Operand.negation "NOT" grouped.operand
  have row := Lexeme.rowOf_keyword .not (grouped.row Lexeme.rowOf_nil)
  refine readAs_of_spells ?_ operand.spells (deepest_negated grouped)
    fun lineage record => ?_
  · simpa [parenthesize] using row
  · simp [holds]

theorem readAs_exclamation (grouped : Grouped left expr lexemes nesting) :
    ReadAs ("!(" ++ left ++ ")") ((textDepths left).map (· + 2)) (not expr)
      (fun lineage record => !expr.holds lineage record) := by
  have operand := Operand.negation "!" grouped.operand
  have behind := grouped.row Lexeme.rowOf_nil
  have row :
      Lexeme.RowOf (['!'] ++ (parenthesize left.toList ++ []))
        (.symbol .not "!" :: (lexemes ++ [.endOfQuery])) := by
    have noSign : ∀ asked : Signal, '(' ≠ asked.sign := by
      intro asked
      cases asked <;> decide
    exact Lexeme.rowOf_source (.negation (.of_no_sign rfl noSign)) behind
  refine readAs_of_spells ?_ operand.spells (deepest_negated grouped)
    fun lineage record => ?_
  · simpa [parenthesize] using row
  · simp [holds]

/-- Queries in parentheses compose: each parenthesis, and a negation in front of one, adds a level to the
depths of the query inside. -/
theorem readAs_composed {left right : String} {expr other : Expr}
    (leftAccepted : ofText left = .ok expr)
    (rightAccepted : ofText right = .ok other) :
    ReadAs ("(" ++ left ++ ")") ((textDepths left).map (· + 1)) expr
      (fun lineage record => expr.holds lineage record) ∧
    ReadAs ("(" ++ left ++ ") AND (" ++ right ++ ")")
      ((textDepths left ++ textDepths right).map (· + 1)) (and [expr, other])
      (fun lineage record =>
        expr.holds lineage record && other.holds lineage record) ∧
    ReadAs ("(" ++ left ++ ") (" ++ right ++ ")")
      ((textDepths left ++ textDepths right).map (· + 1)) (and [expr, other])
      (fun lineage record =>
        expr.holds lineage record && other.holds lineage record) ∧
    ReadAs ("(" ++ left ++ ") OR (" ++ right ++ ")")
      ((textDepths left ++ textDepths right).map (· + 1)) (or [expr, other])
      (fun lineage record =>
        expr.holds lineage record || other.holds lineage record) ∧
    ReadAs ("NOT (" ++ left ++ ")") ((textDepths left).map (· + 2)) (not expr)
      (fun lineage record => !expr.holds lineage record) ∧
    ReadAs ("!(" ++ left ++ ")") ((textDepths left).map (· + 2)) (not expr)
      (fun lineage record => !expr.holds lineage record) := by
  obtain ⟨lexemes, nesting, grouped⟩ := grouped_of_ofText leftAccepted
  obtain ⟨others, nesting', otherGrouped⟩ := grouped_of_ofText rightAccepted
  exact ⟨readAs_group grouped, readAs_and grouped otherGrouped,
    readAs_adjacent grouped otherGrouped, readAs_or grouped otherGrouped,
    readAs_not grouped, readAs_exclamation grouped⟩

theorem readAs_composed_mark :
    ofText "a OR !!" =
      .ok (or [string "a" false, not (signal .errorSuffix)]) ∧
    ofText "$ *" = .ok (and [signal .runningProcess, anySignal]) ∧
    ofText ("(" ++ "a OR !!" ++ ") (" ++ "$ *" ++ ")") =
      .ok (and [or [string "a" false, not (signal .errorSuffix)],
        and [signal .runningProcess, anySignal]]) := by
  have first : (Cursor.start "a OR !!".toList).next =
      (.ok ⟨.string "a" false, 0⟩, ⟨1, " OR !!".toList⟩) := rfl
  have second : (Cursor.mk 1 " OR !!".toList).next =
      (.ok ⟨.symbol .or "OR", 2⟩, ⟨4, " !!".toList⟩) := rfl
  have third : (Cursor.mk 4 " !!".toList).next =
      (.ok ⟨.symbol (.noSignal .errorSuffix) "!!", 5⟩, ⟨7, []⟩) := rfl
  have leftRead : Token.ofText "a OR !!" = .ok [⟨.string "a" false, 0⟩,
      ⟨.symbol .or "OR", 2⟩, ⟨.symbol (.noSignal .errorSuffix) "!!", 5⟩,
      ⟨.endOfQuery, 7⟩] := by
    rw [Token.ofText, Cursor.tokens_of_next first rfl,
      Cursor.tokens_of_next second rfl, Cursor.tokens_of_next third rfl,
      Cursor.tokens_nil]
    rfl
  have sign : (Cursor.start "$ *".toList).next =
      (.ok ⟨.symbol (.signal .runningProcess) "$", 0⟩, ⟨1, " *".toList⟩) :=
    rfl
  have star : (Cursor.mk 1 " *".toList).next =
      (.ok ⟨.symbol .anySignal "*", 2⟩, ⟨3, []⟩) := rfl
  have rightRead : Token.ofText "$ *" =
      .ok [⟨.symbol (.signal .runningProcess) "$", 0⟩,
        ⟨.symbol .anySignal "*", 2⟩, ⟨.endOfQuery, 3⟩] := by
    rw [Token.ofText, Cursor.tokens_of_next sign rfl,
      Cursor.tokens_of_next star rfl, Cursor.tokens_nil]
    rfl
  have left : ofText "a OR !!" =
      .ok (or [string "a" false, not (signal .errorSuffix)]) := by
    rw [ofText_of_tokens leftRead]
    rfl
  have right : ofText "$ *" =
      .ok (and [signal .runningProcess, anySignal]) := by
    rw [ofText_of_tokens rightRead]
    rfl
  refine ⟨left, right, (readAs_composed left right).2.2.1.shallow ?_⟩
  rw [textDepths, textDepths, leftRead, rightRead]
  decide

end Joined

end Expr

end RecordQuery
