import RecordQuery.Proofs.Derivations

/-!
# Reading derivations

The reader takes up whatever the grammar derives, and it fails just when the row nests deeper than its
limit leaves room for.
-/

namespace RecordQuery.Expr.State

/-! ## Runs -/

section Runs

variable {limit : Nat}

theorem run_cons_of_ok {state following : State} {token : Token}
    (notEnd : token.isEnd = false)
    (step : state.step limit token = .ok following) (rest : List Token) :
    state.run limit (token :: rest) = following.run limit rest := by
  rw [run, notEnd, step]
  rfl

theorem run_cons_of_error {state : State} {token : Token}
    {fault : GrammarFault} (notEnd : token.isEnd = false)
    (step : state.step limit token = .error fault) (rest : List Token) :
    state.run limit (token :: rest) = .error (fault, token :: rest) := by
  rw [run, notEnd, step]
  rfl

/-- At the end of the query the run ends. -/
theorem run_ending (state : State) {rest : List Token}
    (ending : isEmptyQuery rest = true) :
    state.run limit rest = state.finish.mapError (·, rest) := by
  cases rest with
  | nil => rfl
  | cons token rest =>
      have isEnd : token.isEnd = true := ending
      rw [run, if_pos isEnd]

/-- A run at the end of the query returns what the state gives. -/
theorem finish_of_run_ending {state : State} {rest : List Token}
    {expr : Expr} (ending : isEmptyQuery rest = true)
    (run : state.run limit rest = .ok expr) : state.finish = .ok expr := by
  rw [run_ending state ending] at run
  cases finished : state.finish with
  | error fault =>
      rw [finished] at run
      cases run
  | ok result =>
      rw [finished] at run
      cases run
      rfl

end Runs

/-- Tokens with certain lexemes lead from one state to another if the limit leaves room for their
nesting, and are refused as nested too deeply otherwise. -/
structure Reads (limit : Nat) (state following : State)
    (lexemes : List Lexeme) (nesting : Nat) : Prop where
  shallow : state.depth + nesting ≤ limit →
    ∀ tokens rest : List Token, tokens.map Token.lexeme = lexemes →
      state.run limit (tokens ++ rest) = following.run limit rest
  deep : state.depth ≤ limit → limit < state.depth + nesting →
    ∀ tokens rest : List Token, tokens.map Token.lexeme = lexemes →
      ∃ others, state.run limit (tokens ++ rest) =
        .error (.nestedTooDeeply, others)

namespace Reads

variable {limit : Nat}

/-- One row after another, both at the same depth. -/
theorem append {state middle following : State}
    {lexemes others : List Lexeme} {nesting nesting' : Nat}
    (first : Reads limit state middle lexemes nesting)
    (sameDepth : middle.depth = state.depth)
    (second : Reads limit middle following others nesting') :
    Reads limit state following (lexemes ++ others) (max nesting nesting') := by
  constructor
  · intro room tokens rest spelled
    obtain ⟨before, behind, rfl, beforeSpelled, behindSpelled⟩ :=
      List.map_eq_append_iff.mp spelled
    rw [List.append_assoc,
      first.shallow (by omega) before (behind ++ rest) beforeSpelled,
      second.shallow (by omega) behind rest behindSpelled]
  · intro within deep tokens rest spelled
    obtain ⟨before, behind, rfl, beforeSpelled, behindSpelled⟩ :=
      List.map_eq_append_iff.mp spelled
    rw [List.append_assoc]
    by_cases firstDeep : limit < state.depth + nesting
    · exact first.deep within firstDeep before (behind ++ rest) beforeSpelled
    · rw [first.shallow (by omega) before (behind ++ rest) beforeSpelled]
      exact second.deep (by omega) (by omega) behind rest behindSpelled

/-- A single token that does not nest. -/
theorem token {state following : State} {lexeme : Lexeme}
    (notEnd : lexeme.isEnd = false)
    (step : ∀ position,
      state.step limit ⟨lexeme, position⟩ = .ok following) :
    Reads limit state following [lexeme] 0 := by
  constructor
  · intro _ tokens rest spelled
    obtain ⟨token, rfl, rfl⟩ := List.map_eq_singleton_iff.mp spelled
    exact run_cons_of_ok notEnd (step token.position) rest
  · intro within deep
    omega

/-- A token that does not nest, and a row behind it. -/
theorem behind {state middle following : State} {lexeme : Lexeme}
    {lexemes : List Lexeme} {nesting : Nat}
    (first : Reads limit state middle [lexeme] 0)
    (sameDepth : middle.depth = state.depth)
    (second : Reads limit middle following lexemes nesting) :
    Reads limit state following (lexeme :: lexemes) nesting := by
  have whole := first.append sameDepth second
  rw [Nat.zero_max] at whole
  exact whole

/-- A token that nests what follows it by one level. -/
theorem nested {state following : State} {lexeme : Lexeme}
    {lexemes : List Lexeme} {nesting : Nat}
    (notEnd : lexeme.isEnd = false)
    (opens : ∀ position, ∃ inner : State,
      inner.depth = state.depth + 1 ∧
      state.step limit ⟨lexeme, position⟩ =
        (if state.depth < limit then .ok inner
        else .error .nestedTooDeeply) ∧
      Reads limit inner following lexemes nesting) :
    Reads limit state following (lexeme :: lexemes) (nesting + 1) := by
  constructor
  · intro room tokens rest spelled
    obtain ⟨token, others, rfl, rfl, othersSpelled⟩ :=
      List.map_eq_cons_iff.mp spelled
    obtain ⟨inner, innerDepth, step, reads⟩ := opens token.position
    rw [if_pos (by omega)] at step
    rw [List.cons_append, run_cons_of_ok notEnd step]
    exact reads.shallow (by omega) others rest othersSpelled
  · intro within deep tokens rest spelled
    obtain ⟨token, others, rfl, rfl, othersSpelled⟩ :=
      List.map_eq_cons_iff.mp spelled
    obtain ⟨inner, innerDepth, step, reads⟩ := opens token.position
    by_cases room : state.depth < limit
    · rw [if_pos room] at step
      rw [List.cons_append, run_cons_of_ok notEnd step]
      exact reads.deep (by omega) (by omega) others rest othersSpelled
    · rw [if_neg room] at step
      exact ⟨_, run_cons_of_error notEnd step (others ++ rest)⟩

end Reads

/-! ## Derived rows -/

section Derived

variable (limit : Nat)

/-- The state after operands of AND. -/
def conjoined (state : State) (exprs : List Expr) : State :=
  { state with
    level :=
      { state.level with conjuncts := exprs.reverse ++ state.level.conjuncts }
    wantsOperand := false }

theorem operand_eq_conjoined {state : State}
    (noNegation : state.level.negations = 0) (expr : Expr) :
    state.operand expr = state.conjoined [expr] := by
  simp [State.operand, Level.operand, conjoined, noNegation, negated]

theorem operand_conjoined {state : State}
    (noNegation : state.level.negations = 0)
    (exprs : List Expr) (expr : Expr) :
    (state.conjoined exprs).operand expr =
      state.conjoined (exprs ++ [expr]) := by
  have stillNone : (state.conjoined exprs).level.negations = 0 := noNegation
  rw [operand_eq_conjoined stillNone]
  simp [conjoined]

theorem negated_not (count : Nat) (condition : Expr) :
    negated count (.not condition) = .not (negated count condition) := by
  induction count with
  | zero => rfl
  | succ count inductionHypothesis =>
      rw [negated, inductionHypothesis, negated]

theorem reads_atom (state : State) {lexeme : Lexeme} {expr : Expr}
    (atom : IsAtom lexeme expr) :
    Reads limit state (state.operand expr) [lexeme] 0 := by
  cases atom <;> exact .token rfl fun _ => rfl

theorem reads_negation {state : State} {lexemes : List Lexeme} {expr : Expr}
    {nesting : Nat} (spelling : String)
    (operand : ∀ state : State,
      Reads limit state (state.operand expr) lexemes nesting) :
    Reads limit state (state.operand (.not expr))
      (.symbol .not spelling :: lexemes) (nesting + 1) := by
  refine .nested rfl fun position => ?_
  let inner : State :=
    { state with
      level := state.level.negation
      wantsOperand := true
      depth := state.depth + 1 }
  have same : inner.operand expr = state.operand (.not expr) := by
    simp [inner, State.operand, Level.operand, Level.negation, negated,
      negated_not, Nat.add_sub_add_right]
  exact ⟨inner, rfl, rfl, same ▸ operand inner⟩

/-- What a level with finished disjuncts reads as after OR and further conjuncts. -/
theorem closedDisjuncts_conjoined_disjunction
    {state : State} {level : Level} (disjuncts exprs : List Expr)
    (closed : level.closedDisjuncts =
      disjuncts.reverse ++ state.level.disjuncts) :
    ({ level.disjunction with
        conjuncts := exprs.reverse ++ level.disjunction.conjuncts } :
        Level).closedDisjuncts =
      (disjuncts ++ [allOf exprs]).reverse ++ state.level.disjuncts := by
  simp [Level.closedDisjuncts, Level.disjunction] at closed ⊢
  exact closed

end Derived

-- By induction on the derivation, from any state: what has been read before stays as it is, so the
-- depth comes back to where it was and the rows can follow one another.
mutual

theorem reads_operand (limit : Nat) :
    ∀ {lexemes : List Lexeme} {expr : Expr} {nesting : Nat},
      Operand lexemes expr nesting → ∀ state : State,
        Reads limit state (state.operand expr) lexemes nesting
  | _, _, _, .atom atom, state => reads_atom limit state atom
  | _, _, _, .negation spelling operand, _ =>
      reads_negation limit spelling (reads_operand limit operand)
  | _, _, _, @Operand.paren lexemes exprs nesting opening closing inner, state => by
      refine .nested rfl fun position => ?_
      let opened : State := {
        level := .empty
        enclosing := ⟨position, state.level⟩ :: state.enclosing
        wantsOperand := true
        depth := state.depth + 1 }
      obtain ⟨level, closed, noNegation, reads⟩ :=
        reads_disjunction limit inner opened rfl rfl
      refine ⟨opened, rfl, rfl, ?_⟩
      have close :
          Reads limit { opened with level := level, wantsOperand := false }
            (state.operand (anyOf exprs))
            [.symbol .closeParen closing] 0 := by
        refine .token rfl fun _ => ?_
        have spelled : level.expr = anyOf exprs := by
          rw [Level.expr, closed]
          simp [opened, Level.empty]
        simp [step, symbol, closeParen, opened, spelled, State.operand]
      simpa using reads.append rfl close

theorem reads_conjunction (limit : Nat) :
    ∀ {lexemes : List Lexeme} {exprs : List Expr} {nesting : Nat},
      Conjunction lexemes exprs nesting → ∀ state : State,
        state.level.negations = 0 →
          Reads limit state (state.conjoined exprs) lexemes nesting
  | _, _, _, .single operand, state, noNegation => by
      rw [← operand_eq_conjoined noNegation]
      exact reads_operand limit operand state
  | _, _, _, .adjacent before operand, state, noNegation => by
      rw [← operand_conjoined noNegation]
      exact (reads_conjunction limit before state noNegation).append rfl
        (reads_operand limit operand _)
  | _, _, _, @Conjunction.joined _ _ exprs expr _ _ spelling before operand, state,
      noNegation => by
      let wanting : State :=
        { state.conjoined exprs with wantsOperand := true }
      have word :
          Reads limit (state.conjoined exprs) wanting
            [.symbol .and spelling] 0 :=
        .token rfl fun _ => rfl
      have behind := word.behind rfl (reads_operand limit operand wanting)
      rw [← operand_conjoined noNegation]
      exact (reads_conjunction limit before state noNegation).append rfl behind

theorem reads_disjunction (limit : Nat) :
    ∀ {lexemes : List Lexeme} {exprs : List Expr} {nesting : Nat},
      Disjunction lexemes exprs nesting → ∀ state : State,
        state.level.negations = 0 → state.level.conjuncts = [] →
          ∃ level : Level,
            level.closedDisjuncts = exprs.reverse ++ state.level.disjuncts ∧
            level.negations = 0 ∧
            Reads limit state
              { state with level := level, wantsOperand := false }
              lexemes nesting
  | _, _, _, .single conjunction, state, noNegation, noConjunct => by
      refine ⟨_, ?_, ?_, reads_conjunction limit conjunction state noNegation⟩
      · simp [Level.closedDisjuncts, noConjunct]
      · exact noNegation
  | _, _, _, @Disjunction.joined _ _ disjuncts exprs _ _ spelling before conjunction,
      state, noNegation, noConjunct => by
      obtain ⟨level, closed, levelNoNegation, first⟩ :=
        reads_disjunction limit before state noNegation noConjunct
      let wanting : State :=
        { state with level := level.disjunction, wantsOperand := true }
      have word :
          Reads limit { state with level := level, wantsOperand := false }
            wanting [.symbol .or spelling] 0 :=
        .token rfl fun _ => rfl
      have last := reads_conjunction limit conjunction wanting levelNoNegation
      have behind := word.behind rfl last
      refine ⟨_, ?_, ?_, first.append rfl behind⟩
      · exact closedDisjuncts_conjoined_disjunction disjuncts exprs closed
      · exact levelNoNegation

end

/-- A row that spells an expression is read as that expression if the limit leaves room for it, and is
refused as nested too deeply otherwise. -/
theorem run_of_spells {limit nesting : Nat} {tokens ending : List Token}
    {expr : Expr}
    (spelled : Spells (tokens.map Token.lexeme) expr nesting)
    (ends : isEmptyQuery ending = true) :
    (nesting ≤ limit →
      initial.run limit (tokens ++ ending) = .ok expr) ∧
    (limit < nesting →
      ∃ others, initial.run limit (tokens ++ ending) =
        .error (.nestedTooDeeply, others)) := by
  obtain ⟨exprs, disjunction, rfl⟩ := spelled
  obtain ⟨level, closed, _, reads⟩ :=
    reads_disjunction limit disjunction initial rfl rfl
  have depth : initial.depth = 0 := rfl
  constructor
  · intro room
    rw [reads.shallow (by omega) tokens ending rfl, run_ending _ ends]
    have whole : level.expr = anyOf exprs := by
      rw [Level.expr, closed]
      simp [initial, Level.empty]
    rw [← whole]
    rfl
  · intro deep
    exact reads.deep (by omega) (by omega) tokens ending rfl

end RecordQuery.Expr.State

namespace RecordQuery.Expr

/-! ## Whole queries -/

section WholeQueries

theorem run_of_isEmptyQuery {tokens : List Token}
    (empty : isEmptyQuery tokens = true) (limit : Nat) :
    State.initial.run limit tokens = .error (.unexpected, tokens) := by
  rw [State.run_ending State.initial empty]
  rfl

/-- Tokens are an expression just when the reader takes them up as it. -/
theorem ofTokens_eq_ok_iff {tokens : List Token} {expr : Expr} :
    ofTokens tokens = .ok expr ↔
      State.initial.run nestingLimit tokens = .ok expr := by
  rw [ofTokens]
  by_cases empty : isEmptyQuery tokens = true
  · rw [if_pos empty, run_of_isEmptyQuery empty]
    constructor <;> exact fun impossible => nomatch impossible
  · rw [if_neg empty]
    cases State.initial.run nestingLimit tokens with
    | ok result =>
        constructor
        · intro same
          cases same
          rfl
        · intro same
          cases same
          rfl
    | error error =>
        constructor <;> exact fun impossible => nomatch impossible

theorem ofTokens_of_nestedTooDeeply {tokens others : List Token}
    (deep : State.initial.run nestingLimit tokens =
      .error (.nestedTooDeeply, others)) :
    ∃ error : GrammarError,
      ofTokens tokens = .error error ∧ error.fault = .nestedTooDeeply := by
  have notEmpty : ¬ isEmptyQuery tokens = true := by
    intro empty
    rw [run_of_isEmptyQuery empty] at deep
    cases deep
  rw [ofTokens, if_neg notEmpty, deep]
  exact ⟨_, rfl, by cases others <;> rfl⟩

end WholeQueries

end RecordQuery.Expr
