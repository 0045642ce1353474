import RecordQuery.Proofs.Reading

/-!
# Lexemes behind a state

Each state of the reader stands for the lexemes that it has taken up: rows that the grammar derives, cut
off at the place where the reader is. So what the reader returns is spelled by what it has read, within
its limit.
-/

namespace RecordQuery.Expr

/-! ## One level -/

section OneLevel

/-- A row of negations. -/
inductive Negations : List Lexeme → (count : Nat) → Prop where
  | none : Negations [] 0
  | some {lexemes : List Lexeme} {count : Nat} (spelling : String)
      (before : Negations lexemes count) :
      Negations (lexemes ++ [.symbol .not spelling]) (count + 1)

/-- The row behind operands of OR, the last one first: each is followed by the word. -/
inductive FinishedDisjuncts (room : Nat) : List Lexeme → List Expr → Prop where
  | none : FinishedDisjuncts room [] []
  | some {lexemes : List Lexeme} {exprs : List Expr} {nesting : Nat}
      (spelling : String) (within : nesting ≤ room)
      (disjunction : Disjunction lexemes exprs nesting) :
      FinishedDisjuncts room (lexemes ++ [.symbol .or spelling]) exprs.reverse

/-- The row behind operands of AND, the last one first: the word may follow the last one. -/
inductive FinishedConjuncts (room : Nat) : List Lexeme → List Expr → Prop where
  | none : FinishedConjuncts room [] []
  | bare {lexemes : List Lexeme} {exprs : List Expr} {nesting : Nat}
      (within : nesting ≤ room)
      (conjunction : Conjunction lexemes exprs nesting) :
      FinishedConjuncts room lexemes exprs.reverse
  | joined {lexemes : List Lexeme} {exprs : List Expr} {nesting : Nat}
      (spelling : String) (within : nesting ≤ room)
      (conjunction : Conjunction lexemes exprs nesting) :
      FinishedConjuncts room (lexemes ++ [.symbol .and spelling]) exprs.reverse

theorem Negations.operand {lexemes : List Lexeme} {count : Nat}
    (negations : Negations lexemes count) :
    ∀ {others : List Lexeme} {expr : Expr} {nesting : Nat},
      Operand others expr nesting →
        Operand (lexemes ++ others) (negated count expr) (count + nesting) := by
  induction negations with
  | none =>
      intro others expr nesting operand
      rw [Nat.zero_add]
      exact operand
  | some spelling before inductionHypothesis =>
      intro others expr nesting operand
      have outer := inductionHypothesis (.negation spelling operand)
      rw [State.negated_not] at outer
      rw [List.append_assoc, List.singleton_append, negated,
        Nat.add_right_comm, Nat.add_assoc]
      exact outer

theorem FinishedConjuncts.operand {room nesting : Nat}
    {lexemes others : List Lexeme} {exprs : List Expr} {expr : Expr}
    (finished : FinishedConjuncts room lexemes exprs)
    (within : nesting ≤ room) (operand : Operand others expr nesting) :
    ∃ nesting' ≤ room,
      Conjunction (lexemes ++ others) (expr :: exprs).reverse nesting' := by
  cases finished with
  | none => exact ⟨nesting, within, .single operand⟩
  | bare withinBefore before =>
      refine ⟨_, Nat.max_le.mpr ⟨withinBefore, within⟩, ?_⟩
      rw [List.reverse_cons, List.reverse_reverse]
      exact .adjacent before operand
  | joined spelling withinBefore before =>
      refine ⟨_, Nat.max_le.mpr ⟨withinBefore, within⟩, ?_⟩
      rw [List.reverse_cons, List.reverse_reverse, List.append_assoc,
        List.singleton_append]
      exact .joined spelling before operand

theorem FinishedDisjuncts.conjunction {room nesting : Nat}
    {lexemes others : List Lexeme} {disjuncts exprs : List Expr}
    (finished : FinishedDisjuncts room lexemes disjuncts)
    (within : nesting ≤ room)
    (conjunction : Conjunction others exprs nesting) :
    ∃ nesting' ≤ room,
      Disjunction (lexemes ++ others) (allOf exprs :: disjuncts).reverse
        nesting' := by
  cases finished with
  | none => exact ⟨nesting, within, .single conjunction⟩
  | some spelling withinBefore before =>
      refine ⟨_, Nat.max_le.mpr ⟨withinBefore, within⟩, ?_⟩
      rw [List.reverse_cons, List.reverse_reverse, List.append_assoc,
        List.singleton_append]
      exact .joined spelling before conjunction

/-- The lexemes that one level has taken up, with `room` levels of nesting left to it. -/
structure Level.ReadFrom (room : Nat) (level : Level) (wantsOperand : Bool)
    (before current pending : List Lexeme) : Prop where
  disjuncts : FinishedDisjuncts room before level.disjuncts
  conjuncts : FinishedConjuncts room current level.conjuncts
  negations : Negations pending level.negations
  within : level.negations ≤ room
  -- Where no operand is missing, OR, a closing parenthesis or the end may follow.
  complete : wantsOperand = false →
    pending = [] ∧ level.negations = 0 ∧
      ∃ nesting ≤ room,
        Conjunction current level.conjuncts.reverse nesting

namespace Level.ReadFrom

variable {room : Nat} {level : Level} {wantsOperand : Bool}
  {before current pending : List Lexeme}

theorem wanting
    (read : level.ReadFrom room wantsOperand before current pending) :
    level.ReadFrom room true before current pending :=
  { read with complete := fun impossible => nomatch impossible }

theorem operand {others : List Lexeme} {expr : Expr} {nesting : Nat}
    (read : level.ReadFrom room wantsOperand before current pending)
    (within : level.negations + nesting ≤ room)
    (operand : Operand others expr nesting) :
    (level.operand expr).ReadFrom room false before
      (current ++ (pending ++ others)) [] := by
  have joined :=
    read.conjuncts.operand within (read.negations.operand operand)
  obtain ⟨nesting', within', conjunction⟩ := joined
  have finished := FinishedConjuncts.bare within' conjunction
  rw [List.reverse_reverse] at finished
  exact
    { disjuncts := read.disjuncts
      conjuncts := finished
      negations := .none
      within := Nat.zero_le room
      complete := fun _ => ⟨rfl, rfl, nesting', within', conjunction⟩ }

theorem negation
    (read : level.ReadFrom room wantsOperand before current pending)
    (within : level.negations < room) (spelling : String) :
    level.negation.ReadFrom room true before current
      (pending ++ [.symbol .not spelling]) :=
  { disjuncts := read.disjuncts
    conjuncts := read.conjuncts
    negations := .some spelling read.negations
    within := within
    complete := fun impossible => nomatch impossible }

theorem conjunction
    (read : level.ReadFrom room false before current pending)
    (spelling : String) :
    level.ReadFrom room true before
      (current ++ [.symbol .and spelling]) [] := by
  obtain ⟨empty, noNegation, nesting, within, conjunction⟩ :=
    read.complete rfl
  have finished := FinishedConjuncts.joined spelling within conjunction
  rw [List.reverse_reverse] at finished
  exact
    { disjuncts := read.disjuncts
      conjuncts := finished
      negations := empty ▸ read.negations
      within := read.within
      complete := fun impossible => nomatch impossible }

/-- The rows of a level without a pending operand spell its finished disjuncts. -/
theorem finished
    (read : level.ReadFrom room false before current pending) :
    ∃ nesting ≤ room,
      Disjunction (before ++ current) level.closedDisjuncts.reverse
        nesting := by
  obtain ⟨_, _, nesting, within, conjunction⟩ := read.complete rfl
  exact read.disjuncts.conjunction within conjunction

theorem disjunction
    (read : level.ReadFrom room false before current pending)
    (spelling : String) :
    level.disjunction.ReadFrom room true
      (before ++ current ++ [.symbol .or spelling]) [] [] := by
  obtain ⟨empty, noNegation, _⟩ := read.complete rfl
  obtain ⟨nesting, within, disjunction⟩ := read.finished
  have finished := FinishedDisjuncts.some spelling within disjunction
  rw [List.reverse_reverse] at finished
  exact
    { disjuncts := finished
      conjuncts := .none
      negations := empty ▸ read.negations
      within := read.within
      complete := fun impossible => nomatch impossible }

theorem empty (room : Nat) : Level.empty.ReadFrom room true [] [] [] :=
  { disjuncts := .none
    conjuncts := .none
    negations := .none
    within := Nat.zero_le room
    complete := fun impossible => nomatch impossible }

end Level.ReadFrom

end OneLevel

/-! ## All levels -/

section AllLevels

/-- The lexemes behind the open parentheses, and the depth inside all of them. -/
inductive Enclosed (limit : Nat) :
    List OpenParen → List Lexeme → (depth : Nat) → Prop where
  | none : Enclosed limit [] [] 0
  | some {paren : OpenParen} {enclosing : List OpenParen}
      {outside before current pending : List Lexeme}
      {wantsOperand : Bool} {depth : Nat} (spelling : String)
      (enclosed : Enclosed limit enclosing outside depth)
      (read : paren.outer.ReadFrom (limit - depth) wantsOperand
        before current pending)
      (shallow : depth + paren.outer.negations < limit) :
      Enclosed limit (paren :: enclosing)
        (outside ++ (before ++ current ++ pending) ++
          [.symbol .openParen spelling])
        (depth + paren.outer.negations + 1)

/-- The lexemes that a state has taken up. -/
inductive State.ReadFrom (limit : Nat) (state : State) :
    List Lexeme → Prop where
  | intro {outside before current pending : List Lexeme} {depth : Nat}
      (enclosed : Enclosed limit state.enclosing outside depth)
      (read : state.level.ReadFrom (limit - depth) state.wantsOperand
        before current pending)
      (sameDepth : state.depth = depth + state.level.negations)
      (shallow : depth ≤ limit) :
      ReadFrom limit state (outside ++ (before ++ current ++ pending))

namespace State.ReadFrom

variable {limit : Nat} {state : State} {lexemes : List Lexeme}

theorem initial (limit : Nat) : State.initial.ReadFrom limit [] := by
  have whole : State.initial.ReadFrom limit _ :=
    .intro .none (.empty limit) rfl (Nat.zero_le limit)
  exact whole

theorem operand {others : List Lexeme} {expr : Expr} {nesting : Nat}
    (read : state.ReadFrom limit lexemes)
    (within : state.depth + nesting ≤ limit)
    (operand : Operand others expr nesting) :
    (state.operand expr).ReadFrom limit (lexemes ++ others) := by
  obtain ⟨enclosed, level, sameDepth, shallow⟩ := read
  rename_i outside before current negations depth
  have levelRead := level.operand (by omega) operand
  have depthInside : (state.operand expr).depth = depth := by
    rw [State.operand, sameDepth]
    exact Nat.add_sub_cancel ..
  have whole : (state.operand expr).ReadFrom limit _ :=
    .intro enclosed levelRead depthInside shallow
  simpa only [List.append_assoc, List.append_nil] using whole

theorem negation {following : State} (read : state.ReadFrom limit lexemes)
    (step : state.negation limit = .ok following) (spelling : String) :
    following.ReadFrom limit (lexemes ++ [.symbol .not spelling]) := by
  obtain ⟨enclosed, level, sameDepth, shallow⟩ := read
  rw [State.negation] at step
  split at step
  · next room =>
      cases step
      have whole :
          State.ReadFrom limit
            { state with
              level := state.level.negation
              wantsOperand := true
              depth := state.depth + 1 } _ :=
        .intro enclosed (level.negation (by omega) spelling)
          (congrArg (· + 1) sameDepth) shallow
      simpa only [List.append_assoc] using whole
  · cases step

theorem openParen {following : State} (read : state.ReadFrom limit lexemes)
    {position : Nat}
    (step : state.openParen limit position = .ok following)
    (spelling : String) :
    following.ReadFrom limit (lexemes ++ [.symbol .openParen spelling]) := by
  obtain ⟨enclosed, level, sameDepth, shallow⟩ := read
  rw [State.openParen] at step
  split at step
  · next room =>
      cases step
      have inside :
          Enclosed limit (⟨position, state.level⟩ :: state.enclosing) _ _ :=
        .some spelling enclosed level
          (lt_of_eq_of_lt sameDepth.symm room)
      have whole :
          State.ReadFrom limit
            { level := .empty
              enclosing := ⟨position, state.level⟩ :: state.enclosing
              wantsOperand := true
              depth := state.depth + 1 } _ :=
        .intro inside (.empty _) (congrArg (· + 1) sameDepth)
          (lt_of_eq_of_lt sameDepth.symm room)
      simpa only [List.append_nil] using whole
  · cases step

theorem closeParen {following : State} (read : state.ReadFrom limit lexemes)
    (step : state.closeParen = .ok following) (spelling : String) :
    following.ReadFrom limit (lexemes ++ [.symbol .closeParen spelling]) := by
  obtain ⟨enclosed, level, sameDepth, shallow⟩ := read
  rw [State.closeParen] at step
  split at step
  · cases step
  · next notWanting =>
      rw [eq_false_of_ne_true notWanting] at level
      obtain ⟨nesting, within, disjunction⟩ := level.finished
      obtain ⟨empty, noNegation, _⟩ := level.complete rfl
      split at step
      · cases step
      · next paren enclosing isEnclosed =>
          cases step
          rw [isEnclosed] at enclosed
          cases enclosed with
          | some opening outsideEnclosed outer room =>
              have around :
                  State.ReadFrom limit
                    ⟨paren.outer, enclosing, true, state.depth - 1⟩ _ :=
                .intro outsideEnclosed outer.wanting
                  (by rw [sameDepth, noNegation]; rfl) (by omega)
              have grouped : Operand _ state.level.expr _ :=
                .paren opening spelling disjunction
              have depthAround :
                  state.depth - 1 + (nesting + 1) ≤ limit := by
                omega
              have whole := around.operand depthAround grouped
              simpa only [empty, List.append_nil, List.append_assoc,
                List.cons_append, List.nil_append] using whole

theorem conjunction {following : State} (read : state.ReadFrom limit lexemes)
    (step : state.conjunction = .ok following) (spelling : String) :
    following.ReadFrom limit (lexemes ++ [.symbol .and spelling]) := by
  obtain ⟨enclosed, level, sameDepth, shallow⟩ := read
  rw [State.conjunction] at step
  split at step
  · cases step
  · next notWanting =>
      cases step
      rw [eq_false_of_ne_true notWanting] at level
      obtain ⟨empty, _⟩ := level.complete rfl
      have whole :
          State.ReadFrom limit { state with wantsOperand := true } _ :=
        .intro enclosed (level.conjunction spelling) sameDepth shallow
      simpa only [empty, List.append_nil, List.append_assoc] using whole

theorem disjunction {following : State} (read : state.ReadFrom limit lexemes)
    (step : state.disjunction = .ok following) (spelling : String) :
    following.ReadFrom limit (lexemes ++ [.symbol .or spelling]) := by
  obtain ⟨enclosed, level, sameDepth, shallow⟩ := read
  rw [State.disjunction] at step
  split at step
  · cases step
  · next notWanting =>
      cases step
      rw [eq_false_of_ne_true notWanting] at level
      obtain ⟨empty, _⟩ := level.complete rfl
      have whole :
          State.ReadFrom limit
            { state with
              level := state.level.disjunction
              wantsOperand := true } _ :=
        .intro enclosed (level.disjunction spelling) sameDepth shallow
      simpa only [empty, List.append_nil, List.append_assoc] using whole

theorem atom (read : state.ReadFrom limit lexemes)
    {lexeme : Lexeme} {expr : Expr} (atom : IsAtom lexeme expr) :
    (state.operand expr).ReadFrom limit (lexemes ++ [lexeme]) := by
  have within : state.depth + 0 ≤ limit := by
    obtain ⟨_, level, sameDepth, shallow⟩ := read
    have := level.within
    omega
  exact read.operand within (.atom atom)

/-- A step adds the lexeme of its token to those that have been read. -/
theorem step {following : State} {token : Token}
    (read : state.ReadFrom limit lexemes)
    (step : state.step limit token = .ok following) :
    following.ReadFrom limit (lexemes ++ [token.lexeme]) := by
  obtain ⟨lexeme, position⟩ := token
  rw [State.step] at step
  cases lexeme with
  | string value caseSensitive =>
      cases step
      exact read.atom (.string value caseSensitive)
  | property key value =>
      cases key with
      | none => cases step
      | some key =>
          cases step
          exact read.atom (.property key value)
  | endOfQuery => cases step
  | symbol meaning spelling =>
      cases meaning with
      | and => exact read.conjunction step spelling
      | or => exact read.disjunction step spelling
      | not => exact read.negation step spelling
      | openParen => exact read.openParen step spelling
      | closeParen => exact read.closeParen step spelling
      | signal asked =>
          cases step
          exact read.atom (.signal asked spelling)
      | noSignal asked =>
          cases step
          exact read.atom (.noSignal asked spelling)
      | anySignal =>
          cases step
          exact read.atom (.anySignal spelling)

/-- What a state gives at the end is spelled by what has been read. -/
theorem finish {expr : Expr} (read : state.ReadFrom limit lexemes)
    (finish : state.finish = .ok expr) :
    ∃ nesting ≤ limit, Spells lexemes expr nesting := by
  obtain ⟨enclosed, level, _, shallow⟩ := read
  rw [State.finish] at finish
  split at finish
  · cases finish
  · next notWanting =>
      rw [eq_false_of_ne_true notWanting] at level
      obtain ⟨nesting, within, disjunction⟩ := level.finished
      obtain ⟨empty, _⟩ := level.complete rfl
      split at finish
      · next notEnclosed =>
          cases finish
          rw [notEnclosed] at enclosed
          cases enclosed
          refine ⟨nesting, by omega, _, ?_, rfl⟩
          simpa only [empty, List.append_nil, List.nil_append] using
            disjunction
      · cases finish

/-- What a run returns is spelled by the lexemes up to the end marker, within the limit. -/
theorem run {expr : Expr} {tokens : List Token} :
    ∀ {state : State} {lexemes : List Lexeme},
      state.ReadFrom limit lexemes → state.run limit tokens = .ok expr →
        ∃ nesting ≤ limit,
          Spells
            (lexemes ++
              (tokens.takeWhile (!·.isEnd)).map Token.lexeme)
            expr nesting := by
  induction tokens with
  | nil =>
      intro state lexemes read run
      have finished := finish_of_run_ending rfl run
      simpa using read.finish finished
  | cons token rest inductionHypothesis =>
      intro state lexemes read run
      by_cases isEnd : token.isEnd = true
      · have ending : isEmptyQuery (token :: rest) = true := isEnd
        have finished := finish_of_run_ending ending run
        simpa [isEnd] using read.finish finished
      · have notEnd : token.isEnd = false := by simpa using isEnd
        cases stepped : state.step limit token with
        | error fault =>
            rw [run_cons_of_error notEnd stepped] at run
            cases run
        | ok following =>
            rw [run_cons_of_ok notEnd stepped] at run
            have behind := inductionHypothesis (read.step stepped) run
            simpa [notEnd] using behind

end State.ReadFrom

/-- What tokens are read as is spelled by their lexemes up to the end marker. -/
theorem spells_of_run {limit : Nat} {tokens : List Token} {expr : Expr}
    (run : State.initial.run limit tokens = .ok expr) :
    ∃ nesting ≤ limit,
      Spells ((tokens.takeWhile (!·.isEnd)).map Token.lexeme) expr
        nesting := by
  simpa using (State.ReadFrom.initial limit).run run

end AllLevels

end RecordQuery.Expr
