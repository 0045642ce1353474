import RecordQuery.Proofs.Descent

/-!
# The reader and the descent

The reader, which takes up one token after the other, follows the reading by descent: what a rule reads in
one call leads the reader from one state to another, and where a rule finds a fault, the reader finds the
same one. So both make the same of every query, and what holds of the counter holds of the reader as well.
-/

namespace RecordQuery.Expr.Descent

/-! ## Following a reading -/

/-- A run from a state goes on as one from another state with the tokens that a reading leaves, or it ends
with the same fault as the reading. -/
def Follows {α : Type} {bound : Nat} (limit : Nat) (state : State)
    (tokens : List Token) (after : α → List Token → State → Prop) :
    Except Stop (Reading α bound) → Prop :=
  Outcome
    (fun reading => ∃ following,
      after reading.value reading.rest following ∧
      state.run limit tokens = following.run limit reading.rest)
    fun fault rest => state.run limit tokens = .error (fault, rest)

namespace Follows

variable {α β γ : Type} {bound bound' limit depth : Nat}
  {state other : State} {tokens rest : List Token}
  {after : α → List Token → State → Prop}
  {result : Except Stop (Reading α bound)}

theorem of_run (same : state.run limit tokens = other.run limit rest)
    (follows : Follows limit other rest after result) :
    Follows limit state tokens after result := by
  rw [Follows, same]
  exact follows

theorem bind {after' : β → List Token → State → Prop}
    {further : Reading α bound → Except Stop (Reading β bound')}
    (follows : Follows limit state tokens after result)
    (restores : Restores tokens depth result)
    (second : ∀ (reading : Reading α bound) (middle : State),
      reading.depth = depth → after reading.value reading.rest middle →
        Follows limit middle reading.rest after' (further reading)) :
    Follows limit state tokens after' (result >>= further) := by
  cases result with
  | ok reading =>
      obtain ⟨middle, is, same⟩ := follows
      exact of_run same (second reading middle restores.1 is)
  | error stop =>
      cases stop with
      | fault => exact follows
      | depthOutOfRange => exact follows

/-- One reading after another. -/
theorem followedBy {after' : γ → List Token → State → Prop}
    {others : (reading : Reading α bound) →
      Except Stop (Reading β (reading.rest.length + 1))}
    {together : α → β → γ} {notMore : bound ≤ bound'}
    (follows : Follows limit state tokens after result)
    (restores : Restores tokens depth result)
    (afterOthers : State → β → List Token → State → Prop)
    (second : ∀ (reading : Reading α bound) (middle : State),
      reading.depth = depth → after reading.value reading.rest middle →
        Follows limit middle reading.rest (afterOthers middle)
          (others reading))
    (whole : ∀ value values middle rest rest' following,
      after value rest middle → afterOthers middle values rest' following →
        after' (together value values) rest' following) :
    Follows limit state tokens after' (result >>= fun reading =>
      others reading >>= fun other =>
        .ok (reading.followedBy other together notMore)) := by
  refine follows.bind restores fun reading middle back is => ?_
  have further := second reading middle back is
  cases behind : others reading with
  | ok other =>
      rw [behind] at further
      obtain ⟨following, isAfter, same⟩ := further
      exact ⟨following, whole _ _ _ _ _ _ is isAfter, same⟩
  | error stop =>
      rw [behind] at further
      cases stop with
      | fault => exact further
      | depthOutOfRange => exact further

end Follows

/-! ## Places of the reader -/

/-- The reader stands at a certain depth within the limit, with a number of pending negations, at a place
where an operand has to come next or none has to. -/
structure Stands (limit depth negations : Nat) (wantsOperand : Bool)
    (state : State) : Prop where
  within : depth ≤ limit
  entered : negations ≤ depth
  sameDepth : state.depth = depth
  sameNegations : state.level.negations = negations
  sameWants : state.wantsOperand = wantsOperand

/-- Tokens with which neither a disjunct nor an operand goes on. -/
def Ends (tokens : List Token) : Prop :=
  behind? .or tokens = none ∧ nextOperand? tokens = none

section Places

variable {limit depth : Nat} {state : State} {tokens rest : List Token}

theorem Stands.conjoined {wantsOperand : Bool}
    (stands : Stands limit depth 0 wantsOperand state) (exprs : List Expr) :
    Stands limit depth 0 false (state.conjoined exprs) where
  within := stands.within
  entered := stands.entered
  sameDepth := stands.sameDepth
  sameNegations := stands.sameNegations
  sameWants := rfl

/-- Where nothing goes on, the query ends or a parenthesis closes. -/
theorem ending_or_closing_of_ends (ends : Ends tokens) :
    isEmptyQuery tokens = true ∨
      ∃ rest, behind? .closeParen tokens = some rest := by
  obtain ⟨noDisjunct, noOperand⟩ := ends
  cases tokens with
  | nil => exact .inl rfl
  | cons token rest =>
      obtain ⟨lexeme, position⟩ := token
      cases lexeme with
      | endOfQuery => exact .inl rfl
      | string => cases noOperand
      | property => cases noOperand
      | symbol meaning =>
          cases meaning with
          | closeParen => exact .inr ⟨rest, rfl⟩
          | or => cases noDisjunct
          | _ => cases noOperand

theorem run_of_wantsOperand_ending (wants : state.wantsOperand = true)
    (ending : isEmptyQuery rest = true) :
    state.run limit rest = .error (.unexpected, rest) := by
  rw [State.run_ending state ending, State.finish, wants]
  rfl

/-- Where nothing goes on, an open parenthesis stays open if none closes. -/
theorem run_of_unclosed {paren : OpenParen} {enclosing : List OpenParen}
    (complete : state.wantsOperand = false)
    (parens : state.enclosing = paren :: enclosing)
    (ends : Ends rest) (unclosed : behind? .closeParen rest = none) :
    state.run limit rest = .error (.unclosedParen paren.position, rest) := by
  have ending : isEmptyQuery rest = true := by
    rcases ending_or_closing_of_ends ends with ending | ⟨behind, closes⟩
    · exact ending
    · rw [unclosed] at closes
      cases closes
  rw [State.run_ending state ending, State.finish, complete, parens]
  rfl

/-- A disjunct behind OR. -/
theorem run_of_or (complete : state.wantsOperand = false)
    (found : behind? .or tokens = some rest) :
    state.run limit tokens =
      ({ state with level := state.level.disjunction, wantsOperand := true } :
        State).run limit rest := by
  obtain ⟨spelling, position, rfl⟩ := behind?_eq_some_iff.mp found
  refine State.run_cons_of_ok rfl ?_ rest
  change state.disjunction = _
  rw [State.disjunction, complete]
  rfl

/-- A further operand, behind AND or without it. -/
theorem run_of_nextOperand? (complete : state.wantsOperand = false)
    (found : nextOperand? tokens = some rest) :
    state.run limit tokens =
      ({ state with wantsOperand := true } : State).run limit rest := by
  rcases nextOperand?_eq_some_iff.mp found with behind | ⟨rfl, begins⟩
  · obtain ⟨spelling, position, rfl⟩ := behind?_eq_some_iff.mp behind
    refine State.run_cons_of_ok rfl ?_ rest
    exact State.conjunction_of_complete complete
  · obtain ⟨token, others, rfl, begins⟩ := begins
    exact (State.run_wanting_of_beginsOperand begins others).symm

/-- No operand begins with a token that spells nothing by itself, opens no parenthesis and negates
nothing. -/
theorem run_of_refusal {token : Token} (wants : state.wantsOperand = true)
    (noNegation : behind? .not (token :: rest) = none)
    (notAtom : atom? token.lexeme = none)
    (opensNot : ¬ token.means .openParen = true) :
    state.run limit (token :: rest) =
      .error (refusal token.lexeme, token :: rest) := by
  obtain ⟨lexeme, position⟩ := token
  cases lexeme with
  | string => cases notAtom
  | property key _ =>
      cases key with
      | none => rfl
      | some key => cases notAtom
  | endOfQuery => exact run_of_wantsOperand_ending wants rfl
  | symbol meaning =>
      cases meaning with
      | not => cases noNegation
      | openParen => exact absurd rfl opensNot
      | signal => cases notAtom
      | noSignal => cases notAtom
      | anySignal => cases notAtom
      | _ =>
          refine State.run_cons_of_error rfl ?_ rest
          obtain ⟨level, enclosing, wantsOperand, depth⟩ := state
          cases wants
          rfl

end Places

/-! ## Each rule and the reader -/

/-- The state behind an operand that holds the negations in front of it. -/
def conjunct (state : State) (value : Expr) : State :=
  { state with
    level :=
      { state.level with
        conjuncts := value :: state.level.conjuncts
        negations := 0 }
    wantsOperand := false
    depth := state.depth - state.level.negations }

/-- The state behind NOT. -/
def negating (state : State) : State :=
  { state with
    level := state.level.negation
    wantsOperand := true
    depth := state.depth + 1 }

/-- The state behind an opening parenthesis. -/
def opened (state : State) (position : Nat) : State where
  level := .empty
  enclosing := ⟨position, state.level⟩ :: state.enclosing
  wantsOperand := true
  depth := state.depth + 1

/-- Certain operands have been read behind a state, and no other follows. -/
structure AfterConjuncts (state : State) (values : List Expr)
    (rest : List Token) (following : State) : Prop where
  noOperand : nextOperand? rest = none
  same : following = state.conjoined values

/-- Certain disjuncts have been read behind a state, in addition to those before, and none follows. -/
structure AfterDisjuncts (state : State) (before values : List Expr)
    (rest : List Token) (following : State) : Prop where
  ends : Ends rest
  closed : following.level.closedDisjuncts = values.reverse ++ before
  same : following =
    { state with level := following.level, wantsOperand := false }

section Rules

variable {limit depth : Nat} {state following : State} {rest : List Token}

theorem conjunct_eq_conjoined (noNegation : state.level.negations = 0)
    (value : Expr) : conjunct state value = state.conjoined [value] := by
  simp [conjunct, State.conjoined, noNegation]

theorem AfterConjuncts.cons {value : Expr} {values : List Expr}
    (after : AfterConjuncts (state.conjoined [value]) values rest following) :
    AfterConjuncts state (value :: values) rest following where
  noOperand := after.noOperand
  same := by
    rw [after.same]
    simp [State.conjoined]

theorem AfterDisjuncts.cons {values exprs : List Expr}
    (fresh : state.level.conjuncts = [])
    (after : AfterDisjuncts (state.conjoined exprs)
      (state.conjoined exprs).level.closedDisjuncts values rest following) :
    AfterDisjuncts state state.level.disjuncts (allOf exprs :: values) rest
      following where
  ends := after.ends
  closed := by
    rw [after.closed]
    simp [State.conjoined, Level.closedDisjuncts, fresh]
  same := after.same

theorem step_of_atom? {token : Token} {value : Expr}
    (atom : atom? token.lexeme = some value) :
    state.step limit token = .ok (state.operand value) := by
  obtain ⟨lexeme, position⟩ := token
  cases lexeme with
  | string => cases atom; rfl
  | property key _ => cases key <;> cases atom; rfl
  | endOfQuery => cases atom
  | symbol meaning => cases meaning <;> cases atom <;> rfl

theorem step_of_not (sameDepth : state.depth = depth) (spelling : String)
    (position : Nat) :
    state.step limit ⟨.symbol .not spelling, position⟩ =
      if depth < limit then .ok (negating state)
      else .error .nestedTooDeeply := by
  rw [← sameDepth]
  rfl

theorem step_of_openParen {token : Token}
    (opens : token.means .openParen = true)
    (sameDepth : state.depth = depth) :
    state.step limit token =
      if depth < limit then .ok (opened state token.position)
      else .error .nestedTooDeeply := by
  obtain ⟨lexeme, position⟩ := token
  obtain ⟨spelling, rfl⟩ := Token.means_iff.mp opens
  rw [← sameDepth]
  rfl

theorem follows_enter {α : Type} {bound : Nat} {inner : State}
    {token : Token} {after : α → List Token → State → Prop}
    {further : Nat → Except Stop (Reading α bound)}
    (notEnd : token.isEnd = false)
    (step : state.step limit token =
      if depth < limit then .ok inner else .error .nestedTooDeeply)
    (inside : depth < limit →
      Follows limit inner rest after (further (depth + 1))) :
    Follows limit state (token :: rest) after
      (enter limit depth (token :: rest) >>= further) := by
  by_cases room : depth < limit
  · rw [if_pos room] at step
    rw [enter_of_lt room]
    exact .of_run (State.run_cons_of_ok notEnd step rest) (inside room)
  · rw [if_neg room] at step
    rw [enter_of_le (Nat.not_lt.mp room)]
    exact State.run_cons_of_error notEnd step rest

theorem AfterDisjuncts.expr {values : List Expr}
    (after : AfterDisjuncts state [] values rest following) :
    following.level.expr = anyOf values := by
  rw [Level.expr, after.closed, List.append_nil, List.reverse_reverse]

/-- What a closing parenthesis closes becomes an operand of the state in front of the opening one. -/
theorem closeParen_of_opened {position : Nat}
    (wants : state.wantsOperand = true)
    (same : following =
      { opened state position with
        level := following.level
        wantsOperand := false }) :
    following.closeParen = .ok (state.operand following.level.expr) := by
  obtain ⟨level, enclosing, wantsOperand, depth⟩ := state
  cases wants
  rw [same]
  rfl

theorem follows_close {bound position : Nat}
    {inner : Reading Expr bound} {values : List Expr}
    (stands : Stands limit depth state.level.negations true state)
    (room : depth < limit) (inside : inner.depth = depth + 1)
    (value : inner.value = anyOf values)
    (after : AfterDisjuncts (opened state position) [] values inner.rest
      following) :
    Follows limit following inner.rest
      (fun value _ behind => behind = state.operand value)
      (close limit position inner) := by
  have complete : following.wantsOperand = false := by
    rw [after.same]
  have parens : following.enclosing =
      ⟨position, state.level⟩ :: state.enclosing := by
    rw [after.same]
    rfl
  cases found : behind? .closeParen inner.rest with
  | none =>
      rw [close_of_none limit position found]
      exact run_of_unclosed complete parens after.ends found
  | some behind =>
      obtain ⟨shorter, closed⟩ :=
        close_of_some limit position found (by omega) (by omega)
      rw [closed]
      refine ⟨_, rfl, ?_⟩
      obtain ⟨spelling, position, spelled⟩ := behind?_eq_some_iff.mp found
      rw [spelled]
      refine State.run_cons_of_ok rfl ?_ behind
      rw [value, ← after.expr]
      exact closeParen_of_opened stands.sameWants after.same

/-- Operands behind the first one. -/
theorem follows_conjuncts {γ : Type} {bound bound' : Nat}
    {tokens : List Token} {result : Except Stop (Reading Expr bound)}
    {after : γ → List Token → State → Prop} {notMore : bound ≤ bound'}
    (stands : Stands limit depth 0 true state)
    (first : Follows limit state tokens
      (fun value _ following => following = conjunct state value) result)
    (restored : Restores tokens depth result)
    (others : ∀ (reading : Reading Expr bound) (middle : State),
      Stands limit reading.depth 0 false middle →
        Follows limit middle reading.rest (AfterConjuncts middle)
          (conjuncts limit reading.depth reading.rest))
    (together : List Expr → γ)
    (whole : ∀ values rest following,
      AfterConjuncts state values rest following →
        after (together values) rest following) :
    Follows limit state tokens after (result >>= fun reading =>
      conjuncts limit reading.depth reading.rest >>= fun other =>
        .ok (reading.followedBy other (together <| · :: ·) notMore)) := by
  refine first.followedBy restored AfterConjuncts ?_ ?_
  · rintro reading middle back rfl
    rw [conjunct_eq_conjoined stands.sameNegations]
    exact others reading _ (back ▸ stands.conjoined _)
  · rintro value values middle _ rest following rfl after
    rw [conjunct_eq_conjoined stands.sameNegations] at after
    exact whole _ _ _ after.cons

/-- Disjuncts behind the first one. -/
theorem follows_disjuncts {γ : Type} {bound bound' : Nat}
    {tokens : List Token} {result : Except Stop (Reading Expr bound)}
    {after : γ → List Token → State → Prop} {notMore : bound ≤ bound'}
    (stands : Stands limit depth 0 true state)
    (fresh : state.level.conjuncts = [])
    (first : Follows limit state tokens
      (fun value rest following => ∃ values, value = allOf values ∧
        AfterConjuncts state values rest following) result)
    (restored : Restores tokens depth result)
    (others : ∀ (reading : Reading Expr bound) (middle : State),
      Stands limit reading.depth 0 false middle →
        nextOperand? reading.rest = none →
          Follows limit middle reading.rest
            (AfterDisjuncts middle middle.level.closedDisjuncts)
            (disjuncts limit reading.depth reading.rest))
    (together : List Expr → γ)
    (whole : ∀ values rest following,
      AfterDisjuncts state state.level.disjuncts values rest following →
        after (together values) rest following) :
    Follows limit state tokens after (result >>= fun reading =>
      disjuncts limit reading.depth reading.rest >>= fun other =>
        .ok (reading.followedBy other (together <| · :: ·) notMore)) := by
  refine first.followedBy restored
    (fun middle => AfterDisjuncts middle middle.level.closedDisjuncts) ?_ ?_
  · rintro reading middle back ⟨exprs, _, after⟩
    rw [after.same]
    exact others reading _ (back ▸ stands.conjoined exprs) after.noOperand
  · rintro value values middle _ rest following ⟨exprs, rfl, after⟩ further
    rw [after.same] at further
    exact whole _ _ _ (further.cons fresh)

end Rules

-- By induction on the calls, from any state in which the reader can come to the call. What was read before
-- stays in the state, so the reader can go on behind a call as the rule does.
theorem follows (limit : Nat) :
    (∀ depth tokens, ∀ state, Stands limit depth 0 true state →
      state.level = .empty →
        Follows limit state tokens
          (fun value rest following => ∃ values, value = anyOf values ∧
            AfterDisjuncts state [] values rest following)
          (disjunction limit depth tokens)) ∧
    (∀ depth tokens, ∀ state, Stands limit depth 0 false state →
      nextOperand? tokens = none →
        Follows limit state tokens
          (AfterDisjuncts state state.level.closedDisjuncts)
          (disjuncts limit depth tokens)) ∧
    (∀ depth tokens, ∀ state, Stands limit depth 0 true state →
      Follows limit state tokens
        (fun value rest following => ∃ values, value = allOf values ∧
          AfterConjuncts state values rest following)
        (conjunction limit depth tokens)) ∧
    (∀ depth tokens, ∀ state, Stands limit depth 0 false state →
      Follows limit state tokens (AfterConjuncts state)
        (conjuncts limit depth tokens)) ∧
    (∀ depth negations tokens, ∀ state,
      Stands limit depth negations true state →
        Follows limit state tokens
          (fun value _ following => following = conjunct state value)
          (operand limit depth negations tokens)) ∧
    (∀ depth tokens, ∀ state,
      Stands limit depth state.level.negations true state →
        behind? .not tokens = none →
          Follows limit state tokens
            (fun value _ following => following = state.operand value)
            (primary limit depth tokens)) := by
  refine disjunction.mutual_induct _ _ _ _ _ _
    ?disjunction ?noDisjunct ?disjunct ?conjunction ?noConjunct ?conjunct
    ?negation ?behindNegations ?noToken ?atom ?paren ?other
  case disjunction =>
    intro depth tokens first others state stands fresh
    rw [disjunction]
    refine follows_disjuncts stands (fresh ▸ rfl) (first state stands)
      (restores_conjunction stands.within tokens) others anyOf ?_
    intro values rest following after
    rw [fresh] at after
    exact ⟨values, rfl, after⟩
  case noDisjunct =>
    intro depth tokens found state stands noOperand
    rw [disjuncts_of_none limit depth found]
    refine ⟨state, ⟨⟨found, noOperand⟩, rfl, ?_⟩, rfl⟩
    rw [← stands.sameWants]
  case disjunct =>
    intro depth tokens behind found _ next others state stands noOperand
    obtain ⟨_, further⟩ := disjuncts_of_some limit depth found
    rw [further]
    refine .of_run (run_of_or stands.sameWants found) ?_
    let wanting : State :=
      { state with level := state.level.disjunction, wantsOperand := true }
    have stands : Stands limit depth 0 true wanting :=
      ⟨stands.within, stands.entered, stands.sameDepth, stands.sameNegations,
        rfl⟩
    refine follows_disjuncts stands rfl (next wanting stands)
      (restores_conjunction stands.within behind) others id ?_
    intro values rest following after
    exact ⟨after.ends, after.closed, after.same⟩
  case conjunction =>
    intro depth tokens first others state stands
    rw [conjunction]
    refine follows_conjuncts stands (first state stands)
      (restores_operand stands.within tokens stands.entered) others allOf ?_
    intro values rest following after
    exact ⟨values, rfl, after⟩
  case noConjunct =>
    intro depth tokens found state stands
    rw [conjuncts_of_none limit depth found]
    refine ⟨state, ⟨found, ?_⟩, rfl⟩
    rw [State.conjoined, ← stands.sameWants]
    rfl
  case conjunct =>
    intro depth tokens behind found _ next others state stands
    obtain ⟨_, further⟩ := conjuncts_of_some limit depth found
    rw [further]
    refine .of_run (run_of_nextOperand? stands.sameWants found) ?_
    let wanting : State := { state with wantsOperand := true }
    have stands : Stands limit depth 0 true wanting :=
      ⟨stands.within, stands.entered, stands.sameDepth, stands.sameNegations,
        rfl⟩
    refine follows_conjuncts stands (next wanting stands)
      (restores_operand stands.within behind stands.entered) others id ?_
    intro values rest following after
    exact ⟨after.noOperand, after.same⟩
  case negation =>
    intro depth negations tokens behind found _ inner state stands
    obtain ⟨_, further⟩ := operand_of_some limit depth negations found
    rw [further]
    obtain ⟨spelling, position, rfl⟩ := behind?_eq_some_iff.mp found
    refine follows_enter rfl
      (step_of_not stands.sameDepth spelling position) fun room => ?_
    have inside :
        Stands limit (depth + 1) (negations + 1) true (negating state) :=
      ⟨room, Nat.succ_le_succ stands.entered,
        congrArg (· + 1) stands.sameDepth,
        congrArg (· + 1) stands.sameNegations, rfl⟩
    refine (inner (depth + 1) _ inside).bind
      (restores_operand inside.within behind inside.entered) ?_
    rintro reading middle _ rfl
    refine ⟨_, ?_, rfl⟩
    simp [conjunct, negating, Level.negation, Nat.add_sub_add_right]
  case behindNegations =>
    intro depth negations tokens found inner state stands
    rw [operand_of_none limit depth negations found]
    cases stands.sameNegations
    refine (inner state stands found).bind
      (restores_primary stands.within tokens) ?_
    rintro reading middle back rfl
    rw [back, leave_of_le stands.within stands.entered]
    exact ⟨_, rfl, rfl⟩
  case noToken =>
    intro depth state stands _
    rw [primary]
    exact run_of_wantsOperand_ending stands.sameWants rfl
  case atom =>
    intro depth token rest value atom state stands _
    rw [primary_of_atom limit depth atom]
    refine ⟨_, rfl, ?_⟩
    exact State.run_cons_of_ok (isEnd_eq_false_of_atom? atom)
      (step_of_atom? atom) rest
  case paren =>
    intro depth token rest notAtom opens inner state stands _
    rw [primary_of_openParen limit depth notAtom opens]
    refine follows_enter (isEnd_eq_false_of_means opens)
      (step_of_openParen opens stands.sameDepth) fun room => ?_
    have inside :
        Stands limit (depth + 1) 0 true (opened state token.position) :=
      ⟨room, Nat.zero_le _, congrArg (· + 1) stands.sameDepth, rfl, rfl⟩
    refine (inner (depth + 1) _ inside rfl).bind
      (restores_disjunction room rest) ?_
    rintro reading middle back ⟨values, value, after⟩
    exact follows_close stands room back value after
  case other =>
    intro depth token rest notAtom opensNot state stands noNegation
    rw [primary_of_other limit depth notAtom opensNot]
    exact run_of_refusal stands.sameWants noNegation notAtom opensNot

/-! ## Whole queries -/

section Queries

variable {tokens rest : List Token} {fault : GrammarFault}

theorem ofTokens_of_run_eq_error (notEmpty : isEmptyQuery tokens = false)
    (run : State.initial.run nestingLimit tokens = .error (fault, rest)) :
    ofTokens tokens = .error (grammarError tokens fault rest) := by
  rw [ofTokens, if_neg (Bool.eq_false_iff.mp notEmpty), run]
  rfl

/-- What is left behind a disjunction outside of all parentheses has to be the end of the query. -/
theorem run_of_afterDisjuncts {values : List Expr} {following : State}
    {limit : Nat} (after : AfterDisjuncts .initial [] values rest following) :
    following.run limit rest =
      if isEmptyQuery rest then .ok (anyOf values)
      else .error (.afterExpression, rest) := by
  have spelled := after.expr
  rw [after.same]
  rcases ending_or_closing_of_ends after.ends with ending | ⟨behind, closes⟩
  · rw [State.run_ending _ ending, if_pos ending, ← spelled]
    rfl
  · obtain ⟨spelling, position, rfl⟩ := behind?_eq_some_iff.mp closes
    exact State.run_cons_of_error rfl rfl behind

/-- Both ways of reading make the same of a query. -/
theorem ofTokens_of_query (tokens : List Token) :
    Outcome (ofTokens tokens = .ok ·)
      (fun fault rest =>
        ofTokens tokens = .error (grammarError tokens fault rest))
      (query tokens) := by
  rw [query]
  by_cases empty : isEmptyQuery tokens = true
  · rw [if_pos empty]
    exact if_pos empty
  · have notEmpty : isEmptyQuery tokens = false := eq_false_of_ne_true empty
    rw [if_neg empty]
    have start : Stands nestingLimit 0 0 true .initial :=
      ⟨Nat.zero_le _, Nat.le_refl _, rfl, rfl, rfl⟩
    have reads := (follows nestingLimit).1 0 tokens .initial start rfl
    cases result : disjunction nestingLimit 0 tokens with
    | error stop =>
        rw [result] at reads
        cases stop with
        | fault => exact ofTokens_of_run_eq_error notEmpty reads
        | depthOutOfRange => exact reads
    | ok reading =>
        rw [result] at reads
        obtain ⟨following, ⟨values, value, after⟩, same⟩ := reads
        rw [run_of_afterDisjuncts after] at same
        change Outcome _ _
          (if isEmptyQuery reading.rest then .ok reading.value else _)
        by_cases ending : isEmptyQuery reading.rest = true
        · rw [if_pos ending] at same ⊢
          rw [← value] at same
          exact ofTokens_eq_ok_iff.mpr same
        · rw [if_neg ending] at same ⊢
          exact ofTokens_of_run_eq_error notEmpty same

end Queries

/-! ## Every rule at every place -/

/-- A reading from a place in a row of tokens on succeeds only at a later place, with no end marker between
the two, and with the counter at a certain value. -/
def Advances {α : Type} {bound : Nat} (tokens : List Token)
    (start depth : Nat) : Except Stop (Reading α bound) → Prop :=
  Outcome
    (fun reading => reading.depth = depth ∧
      ∃ place, start < place ∧ place ≤ tokens.length ∧
        reading.rest = tokens.drop place ∧
        ∀ token ∈ (tokens.take place).drop start, token.isEnd = false)
    fun _ _ => True

theorem exists_place_of_takes {tokens rest : List Token} {start : Nat}
    (takes : Takes (tokens.drop start) rest)
    (shorter : rest.length < (tokens.drop start).length) :
    ∃ place, start < place ∧ place ≤ tokens.length ∧
      rest = tokens.drop place ∧
      ∀ token ∈ (tokens.take place).drop start, token.isEnd = false := by
  obtain ⟨taken, spelled, noEnd⟩ := takes
  have lengths : tokens.length - start = taken.length + rest.length := by
    rw [← List.length_drop, spelled, List.length_append]
  rw [List.length_drop] at shorter
  refine ⟨start + taken.length, by omega, by omega, ?_, ?_⟩
  · rw [← List.drop_drop, spelled, List.drop_left]
  · rw [List.drop_take, Nat.add_sub_cancel_left, spelled, List.take_left]
    exact noEnd

theorem Restores.advances {α : Type} {tokens : List Token}
    {start depth : Nat}
    {result : Except Stop (Reading α (tokens.drop start).length)}
    (restores : Restores (tokens.drop start) depth result) :
    Advances tokens start depth result :=
  match result, restores with
  | .ok reading, ⟨back, takes⟩ =>
      ⟨back, exists_place_of_takes takes reading.shorter⟩
  | .error (.fault _ _), _ => trivial

/-- At every place in a row of tokens and at every depth within the limit, each rule comes to an end, and the
counter never leaves its range. If the rule succeeds, the counter is back where it was, and the rule has
taken at least one token and no end marker. What the rules make of a whole query is what the reader makes of
it. -/
theorem depth_restored {limit depth : Nat} (within : depth ≤ limit)
    (tokens : List Token) (start : Nat) :
    Advances tokens start depth
      (disjunction limit depth (tokens.drop start)) ∧
    Advances tokens start depth
      (conjunction limit depth (tokens.drop start)) ∧
    Advances tokens start depth
      (operand limit depth 0 (tokens.drop start)) ∧
    Advances tokens start depth
      (primary limit depth (tokens.drop start)) ∧
    Outcome (ofTokens tokens = .ok ·)
      (fun fault rest =>
        ofTokens tokens = .error (grammarError tokens fault rest))
      (query tokens) := by
  let behind := tokens.drop start
  refine ⟨?_, ?_, ?_, ?_, ofTokens_of_query tokens⟩
  · exact (restores_disjunction within behind).advances
  · exact (restores_conjunction within behind).advances
  · exact (restores_operand within behind (Nat.zero_le _)).advances
  · exact (restores_primary within behind).advances

theorem depth_restored_negated_group :
    let tokens : List Token :=
      [⟨.symbol .not "NOT", 0⟩, ⟨.symbol .openParen "(", 4⟩,
        ⟨.string "a" false, 5⟩, ⟨.symbol .closeParen ")", 8⟩,
        ⟨.endOfQuery, 9⟩]
    255 ≤ nestingLimit ∧
    Advances tokens 1 255 (primary nestingLimit 255 (tokens.drop 1)) ∧
    query tokens = .ok (.not (.string "a" false)) := by
  intro tokens
  have within : 255 ≤ nestingLimit := by decide
  obtain ⟨_, _, _, rule, same⟩ := depth_restored within tokens 1
  have accepted : ofTokens tokens = .ok (.not (.string "a" false)) := rfl
  refine ⟨within, rule, ?_⟩
  cases asked : query tokens with
  | ok expr =>
      rw [asked] at same
      cases same.symm.trans accepted
      rfl
  | error stop =>
      rw [asked] at same
      cases stop with
      | fault => cases same.symm.trans accepted
      | depthOutOfRange => exact same.elim

end RecordQuery.Expr.Descent
