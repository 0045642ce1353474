import RecordQuery.Proofs.Prefixes

/-!
# Depths of lexemes

The nesting of a derived row is the greatest depth at which one of its lexemes lies. So tokens are an
expression just when the grammar derives it from their lexemes and none of them lies deeper than the
limit.
-/

namespace RecordQuery.Expr

/-! ## Greatest depths -/

section Deepest

/-- Of some depths one is the greatest. -/
def Deepest (depths : List Nat) (greatest : Nat) : Prop :=
  greatest ∈ depths ∧ ∀ depth ∈ depths, depth ≤ greatest

namespace Deepest

variable {depths others : List Nat} {greatest greatest' : Nat}

theorem singleton (depth : Nat) : Deepest [depth] depth :=
  ⟨List.mem_singleton_self depth, by simp⟩

theorem append (first : Deepest depths greatest)
    (second : Deepest others greatest') :
    Deepest (depths ++ others) (max greatest greatest') := by
  obtain ⟨member, bounded⟩ := first
  obtain ⟨member', bounded'⟩ := second
  constructor
  · rcases Nat.le_total greatest greatest' with less | more
    · rw [Nat.max_eq_right less]
      exact List.mem_append_right depths member'
    · rw [Nat.max_eq_left more]
      exact List.mem_append_left others member
  · intro depth depthMember
    rcases List.mem_append.mp depthMember with early | late
    · exact Nat.le_trans (bounded depth early) (Nat.le_max_left _ _)
    · exact Nat.le_trans (bounded' depth late) (Nat.le_max_right _ _)

/-- A depth that is not greater can stand in front. -/
theorem cons {depth : Nat} (first : depth ≤ greatest)
    (rest : Deepest depths greatest) : Deepest (depth :: depths) greatest := by
  have whole := (singleton depth).append rest
  rw [Nat.max_eq_right first] at whole
  exact whole

/-- The depths some levels further down. -/
theorem lower (levels : Nat) (deepest : Deepest depths greatest) :
    Deepest (depths.map (· + levels)) (greatest + levels) := by
  obtain ⟨member, bounded⟩ := deepest
  refine ⟨List.mem_map_of_mem member, ?_⟩
  intro depth depthMember
  obtain ⟨upper, upperMember, rfl⟩ := List.mem_map.mp depthMember
  exact Nat.add_le_add_right (bounded upper upperMember) levels

theorem forall_le_iff (deepest : Deepest depths greatest) (bound : Nat) :
    (∀ depth ∈ depths, depth ≤ bound) ↔ greatest ≤ bound := by
  obtain ⟨member, bounded⟩ := deepest
  constructor
  · intro shallow
    exact shallow greatest member
  · intro within depth depthMember
    exact Nat.le_trans (bounded depth depthMember) within

theorem exists_lt_iff (deepest : Deepest depths greatest) (bound : Nat) :
    (∃ depth ∈ depths, bound < depth) ↔ bound < greatest := by
  obtain ⟨member, bounded⟩ := deepest
  constructor
  · rintro ⟨depth, depthMember, deep⟩
    exact Nat.lt_of_lt_of_le deep (bounded depth depthMember)
  · intro deep
    exact ⟨greatest, member, deep⟩

end Deepest

end Deepest

/-! ## Rows -/

section Rows

/-- A row at some depth, inside some parentheses, reaches down to a greatest depth, and what follows it
lies right inside the same parentheses. -/
def Reaches (enclosing : List Nat) (depth : Nat) (lexemes : List Lexeme)
    (greatest : Nat) : Prop :=
  ∃ reached : List Nat, Deepest reached greatest ∧
    ∀ rest, depthsFrom enclosing depth (lexemes ++ rest) =
      reached ++ depthsFrom enclosing (depthInside enclosing) rest

namespace Reaches

variable {enclosing : List Nat} {depth greatest greatest' : Nat}
  {lexemes others : List Lexeme}

theorem single {lexeme : Lexeme}
    (step : ∀ rest, depthsFrom enclosing depth (lexeme :: rest) =
      depth :: depthsFrom enclosing (depthInside enclosing) rest) :
    Reaches enclosing depth [lexeme] depth :=
  ⟨[depth], .singleton depth, step⟩

theorem append (first : Reaches enclosing depth lexemes greatest)
    (second : Reaches enclosing (depthInside enclosing) others greatest') :
    Reaches enclosing depth (lexemes ++ others) (max greatest greatest') := by
  obtain ⟨reached, deepest, before⟩ := first
  obtain ⟨reached', deepest', behind⟩ := second
  refine ⟨reached ++ reached', deepest.append deepest', fun rest => ?_⟩
  rw [List.append_assoc, before, behind, List.append_assoc]

/-- A row behind a word that joins it to the row before. -/
theorem behind (word : Lexeme)
    (step : ∀ rest,
      depthsFrom enclosing (depthInside enclosing) (word :: rest) =
        depthInside enclosing ::
          depthsFrom enclosing (depthInside enclosing) rest)
    (row : Reaches enclosing (depthInside enclosing) lexemes
      (depthInside enclosing + greatest)) :
    Reaches enclosing (depthInside enclosing) (word :: lexemes)
      (depthInside enclosing + greatest) := by
  have joined := (single step).append row
  rw [Nat.max_eq_right (Nat.le_add_right _ _)] at joined
  exact joined

theorem negation (spelling : String)
    (row : Reaches enclosing (depth + 1) lexemes (depth + 1 + greatest)) :
    Reaches enclosing depth (.symbol .not spelling :: lexemes)
      (depth + (greatest + 1)) := by
  obtain ⟨reached, deepest, inner⟩ := row
  have same : depth + (greatest + 1) = depth + 1 + greatest := by omega
  rw [same]
  refine ⟨depth :: reached, deepest.cons (by omega), fun rest => ?_⟩
  rw [List.cons_append, depthsFrom, inner, List.cons_append]

theorem paren (opening closing : String)
    (row : Reaches (depth :: enclosing) (depth + 1) lexemes
      (depth + 1 + greatest)) :
    Reaches enclosing depth
      (.symbol .openParen opening ::
        (lexemes ++ [.symbol .closeParen closing]))
      (depth + (greatest + 1)) := by
  obtain ⟨reached, deepest, inner⟩ := row
  have same : depth + (greatest + 1) = depth + 1 + greatest := by omega
  have closed := deepest.append (.singleton depth)
  rw [Nat.max_eq_left (by omega)] at closed
  rw [same]
  refine ⟨depth :: (reached ++ [depth]), closed.cons (by omega),
    fun rest => ?_⟩
  rw [List.cons_append, depthsFrom, List.append_assoc, inner,
    List.singleton_append, depthsFrom]
  simp

end Reaches

theorem reaches_atom {lexeme : Lexeme} {expr : Expr}
    (atom : IsAtom lexeme expr) (enclosing : List Nat) (depth : Nat) :
    Reaches enclosing depth [lexeme] depth := by
  cases atom <;> exact .single fun _ => rfl

end Rows

/-! ## Derived rows -/

section Derived

mutual

theorem reaches_operand :
    ∀ {lexemes : List Lexeme} {expr : Expr} {nesting : Nat},
      Operand lexemes expr nesting → ∀ enclosing depth,
        Reaches enclosing depth lexemes (depth + nesting)
  | _, _, _, .atom atom, enclosing, depth => reaches_atom atom enclosing depth
  | _, _, _, .negation spelling operand, enclosing, depth =>
      .negation spelling (reaches_operand operand enclosing (depth + 1))
  | _, _, _, .paren opening closing inner, enclosing, depth =>
      .paren opening closing (reaches_disjunction inner (depth :: enclosing))

theorem reaches_conjunction :
    ∀ {lexemes : List Lexeme} {exprs : List Expr} {nesting : Nat},
      Conjunction lexemes exprs nesting → ∀ enclosing,
        Reaches enclosing (depthInside enclosing) lexemes
          (depthInside enclosing + nesting)
  | _, _, _, .single operand, enclosing =>
      reaches_operand operand enclosing (depthInside enclosing)
  | _, _, _, .adjacent before operand, enclosing => by
      have last := reaches_operand operand enclosing (depthInside enclosing)
      have whole := (reaches_conjunction before enclosing).append last
      rw [Nat.add_max_add_left] at whole
      exact whole
  | _, _, _, .joined spelling before operand, enclosing => by
      have last := reaches_operand operand enclosing (depthInside enclosing)
      have joined := last.behind (.symbol .and spelling) fun _ => rfl
      have whole := (reaches_conjunction before enclosing).append joined
      rw [Nat.add_max_add_left] at whole
      exact whole

theorem reaches_disjunction :
    ∀ {lexemes : List Lexeme} {exprs : List Expr} {nesting : Nat},
      Disjunction lexemes exprs nesting → ∀ enclosing,
        Reaches enclosing (depthInside enclosing) lexemes
          (depthInside enclosing + nesting)
  | _, _, _, .single conjunction, enclosing =>
      reaches_conjunction conjunction enclosing
  | _, _, _, .joined spelling before conjunction, enclosing => by
      have last := reaches_conjunction conjunction enclosing
      have joined := last.behind (.symbol .or spelling) fun _ => rfl
      have whole := (reaches_disjunction before enclosing).append joined
      rw [Nat.add_max_add_left] at whole
      exact whole

end

/-- The nesting of a row is the depth of its deepest lexeme. -/
theorem Spells.deepest {lexemes : List Lexeme} {expr : Expr} {nesting : Nat}
    (spelled : Spells lexemes expr nesting) :
    Deepest (depths lexemes) nesting := by
  obtain ⟨exprs, disjunction, rfl⟩ := spelled
  obtain ⟨reached, deepest, whole⟩ := reaches_disjunction disjunction []
  have all : depths lexemes = reached := by
    have same := whole []
    rw [List.append_nil, depthsFrom, List.append_nil] at same
    exact same
  rw [depthInside, Nat.zero_add] at deepest
  rw [all]
  exact deepest

example : depths [.symbol .not "!", .symbol .openParen "(",
    .string "a" false, .symbol .closeParen ")", .symbol .anySignal "*"] =
      [0, 1, 2, 1, 0] :=
  rfl

end Derived

/-! ## Tokens -/

section Tokens

theorem takeWhile_not_isEnd {tokens : List Token}
    (noEnd : ∀ token ∈ tokens, token.isEnd = false) (position : Nat) :
    (tokens ++ [Token.mk .endOfQuery position]).takeWhile (!·.isEnd) =
      tokens := by
  have all : ∀ token ∈ tokens, (!token.isEnd) = true := by
    intro token member
    rw [noEnd token member]
    rfl
  rw [List.takeWhile_append_of_pos all]
  exact List.append_nil tokens

/-- Tokens are an expression just when the grammar derives it from their lexemes and no lexeme lies under
more open parentheses and stacked negations than the limit allows. -/
theorem ofTokens_eq_ok_iff_spells {tokens : List Token}
    (noEnd : ∀ token ∈ tokens, token.isEnd = false)
    (expr : Expr) (position : Nat) :
    ofTokens (tokens ++ [⟨.endOfQuery, position⟩]) = .ok expr ↔
      (∃ nesting, Spells (tokens.map Token.lexeme) expr nesting) ∧
        ∀ depth ∈ depths (tokens.map Token.lexeme),
          depth ≤ nestingLimit := by
  rw [ofTokens_eq_ok_iff]
  constructor
  · intro run
    obtain ⟨nesting, within, spelled⟩ := spells_of_run run
    rw [takeWhile_not_isEnd noEnd] at spelled
    have shallow := (spelled.deepest.forall_le_iff nestingLimit).mpr within
    exact ⟨⟨nesting, spelled⟩, shallow⟩
  · rintro ⟨⟨nesting, spelled⟩, shallow⟩
    have within := (spelled.deepest.forall_le_iff nestingLimit).mp shallow
    exact (State.run_of_spells spelled rfl).1 within

theorem ofTokens_eq_ok_iff_spells_negated_group :
    (∀ token ∈ [Token.mk (.symbol .not "!") 0, ⟨.symbol .openParen "(", 1⟩,
        ⟨.string "a" false, 2⟩, ⟨.symbol .closeParen ")", 3⟩,
        ⟨.symbol .anySignal "*", 5⟩], token.isEnd = false) ∧
    (∃ nesting, Spells [.symbol .not "!", .symbol .openParen "(",
        .string "a" false, .symbol .closeParen ")", .symbol .anySignal "*"]
      (and [not (string "a" false), anySignal]) nesting) ∧
    ∀ depth ∈ depths [.symbol .not "!", .symbol .openParen "(",
        .string "a" false, .symbol .closeParen ")", .symbol .anySignal "*"],
      depth ≤ nestingLimit := by
  have noEnd : ∀ token ∈ [Token.mk (.symbol .not "!") 0,
      ⟨.symbol .openParen "(", 1⟩, ⟨.string "a" false, 2⟩,
      ⟨.symbol .closeParen ")", 3⟩, ⟨.symbol .anySignal "*", 5⟩],
      token.isEnd = false := by
    decide
  exact ⟨noEnd, (ofTokens_eq_ok_iff_spells noEnd _ 6).mp rfl⟩

end Tokens

end RecordQuery.Expr
