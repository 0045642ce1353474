import RecordQuery.Proofs.Concatenation
import RecordQuery.Proofs.RoundTrip

/-!
# The token at which a fault shows

The reader refuses tokens at the first one that cannot stand at its place: what stands in front of it can
be completed to a query, and with it nothing can. Each token of a query has a byte position of its own,
so the position of an error names one token.
-/

namespace RecordQuery.Expr

/-! ## Completions -/

section Completions

namespace State

/-- Where no operand is missing, closing parentheses complete what has been read. -/
theorem exists_closing (limit : Nat) :
    ∀ {enclosing : List OpenParen} {state : State},
      state.enclosing = enclosing → state.wantsOperand = false →
        ∃ tokens expr, state.run limit tokens = .ok expr := by
  intro enclosing
  -- Each closing parenthesis leaves a level less, and the depth is checked only at opening ones.
  induction enclosing with
  | nil =>
      intro state noneOpen complete
      refine ⟨[], state.level.expr, ?_⟩
      rw [run, finish, complete, noneOpen]
      rfl
  | cons paren enclosing inductionHypothesis =>
      intro state someOpen complete
      let around : State :=
        ⟨paren.outer, enclosing, true, state.depth - 1⟩
      let closed := around.operand state.level.expr
      have behind : ∃ tokens expr, closed.run limit tokens = .ok expr :=
        inductionHypothesis rfl rfl
      obtain ⟨tokens, expr, completed⟩ := behind
      have step : state.step limit ⟨.symbol .closeParen ")", 0⟩ = .ok closed := by
        simp [State.step, symbol, closeParen, complete, someOpen, closed, around]
      refine ⟨⟨.symbol .closeParen ")", 0⟩ :: tokens, expr, ?_⟩
      rw [run_cons_of_ok rfl step, completed]

/-- Whatever has been read can be completed, however deep it nests. -/
theorem exists_completion (limit : Nat) (state : State) :
    ∃ tokens expr, state.run limit tokens = .ok expr := by
  by_cases complete : state.wantsOperand = false
  · exact exists_closing limit rfl complete
  · have completed : (state.operand (.string "" false)).wantsOperand = false :=
      rfl
    obtain ⟨tokens, expr, closed⟩ := exists_closing limit rfl completed
    have step : state.step limit ⟨.string "" false, 0⟩ =
        .ok (state.operand (.string "" false)) := rfl
    refine ⟨⟨.string "" false, 0⟩ :: tokens, expr, ?_⟩
    rw [run_cons_of_ok rfl step, closed]

end State

end Completions

/-! ## Faults -/

section Faults

/-- Without an end marker in front, the query is empty only if nothing is in front. -/
theorem eq_nil_of_isEmptyQuery_append {before rest : List Token}
    (noEnd : ∀ token ∈ before, token.isEnd = false)
    (ending : isEmptyQuery (before ++ rest) = true) : before = [] := by
  cases before with
  | nil => rfl
  | cons token before =>
      have isEnd : token.isEnd = true := ending
      rw [noEnd token List.mem_cons_self] at isEnd
      cases isEnd

namespace State

/-- Tokens lead from one state to another. None of them is the end marker. -/
inductive Leads (limit : Nat) : State → List Token → State → Prop where
  | none (state : State) : Leads limit state [] state
  | some {state middle following : State} {token : Token}
      {tokens : List Token} (notEnd : token.isEnd = false)
      (step : state.step limit token = .ok middle)
      (behind : Leads limit middle tokens following) :
      Leads limit state (token :: tokens) following

theorem Leads.run_append {limit : Nat} {state following : State}
    {tokens : List Token} (leads : Leads limit state tokens following)
    (rest : List Token) :
    state.run limit (tokens ++ rest) = following.run limit rest := by
  induction leads with
  | none => rfl
  | some notEnd step behind inductionHypothesis =>
      rw [List.cons_append, run_cons_of_ok notEnd step, inductionHypothesis]

theorem Leads.isEnd_eq_false {limit : Nat} {state following : State}
    {tokens : List Token} (leads : Leads limit state tokens following) :
    ∀ token ∈ tokens, token.isEnd = false := by
  induction leads with
  | none => simp
  | some notEnd step behind inductionHypothesis =>
      exact List.forall_mem_cons.mpr ⟨notEnd, inductionHypothesis⟩

/-- A state refuses the rest of a query: no expression is complete at its end, or its first token cannot
stand here. -/
inductive Refuses (limit : Nat) (state : State) (fault : GrammarFault) :
    List Token → Prop where
  | ending {rest : List Token} (ending : isEmptyQuery rest = true)
      (finish : state.finish = .error fault) :
      Refuses limit state fault rest
  | token {token : Token} (notEnd : token.isEnd = false)
      (step : state.step limit token = .error fault) (rest : List Token) :
      Refuses limit state fault (token :: rest)

/-- At the end of the query, a fault shows at the end. -/
theorem finish_of_run_ending_error {limit : Nat} {state : State}
    {tokens rest : List Token} {fault : GrammarFault}
    (ending : isEmptyQuery tokens = true)
    (failed : state.run limit tokens = .error (fault, rest)) :
    tokens = rest ∧ state.finish = .error fault := by
  rw [run_ending state ending] at failed
  cases finished : state.finish with
  | ok expr =>
      rw [finished] at failed
      cases failed
  | error finishFault =>
      rw [finished] at failed
      cases failed
      exact ⟨rfl, rfl⟩

/-- A run that ends in a fault has read the tokens in front of the place where the fault shows, and it
refuses the others. -/
theorem exists_leads_of_run_error {limit : Nat} {tokens rest : List Token}
    {fault : GrammarFault} :
    ∀ {state : State}, state.run limit tokens = .error (fault, rest) →
      ∃ (before : List Token) (following : State),
        tokens = before ++ rest ∧ Leads limit state before following ∧
        Refuses limit following fault rest := by
  induction tokens with
  | nil =>
      intro state failed
      obtain ⟨rfl, finish⟩ := finish_of_run_ending_error rfl failed
      exact ⟨[], state, rfl, .none state, .ending rfl finish⟩
  | cons token others inductionHypothesis =>
      intro state failed
      by_cases isEnd : token.isEnd = true
      · have ending : isEmptyQuery (token :: others) = true := isEnd
        obtain ⟨rfl, finish⟩ := finish_of_run_ending_error ending failed
        exact ⟨[], state, rfl, .none state, .ending ending finish⟩
      · have notEnd : token.isEnd = false := eq_false_of_ne_true isEnd
        cases stepped : state.step limit token with
        | error stepFault =>
            rw [run_cons_of_error notEnd stepped] at failed
            cases failed
            exact ⟨[], state, rfl, .none state, .token notEnd stepped others⟩
        | ok middle =>
            rw [run_cons_of_ok notEnd stepped] at failed
            obtain ⟨before, following, rfl, leads, refuses⟩ :=
              inductionHypothesis failed
            exact ⟨token :: before, following, rfl,
              .some notEnd stepped leads, refuses⟩

end State

/-- Tokens that are no expression are refused by the reader, with the same fault unless there are none. -/
theorem run_of_ofTokens_error {tokens : List Token} {error : GrammarError}
    (failed : ofTokens tokens = .error error) :
    ∃ fault rest,
      State.initial.run nestingLimit tokens = .error (fault, rest) ∧
        error = grammarError tokens error.fault rest ∧
        error.fault = if isEmptyQuery tokens then .emptyQuery else fault := by
  rw [ofTokens] at failed
  by_cases empty : isEmptyQuery tokens = true
  · rw [if_pos empty] at failed
    have run := run_of_isEmptyQuery empty nestingLimit
    refine ⟨_, tokens, run, ?_⟩
    cases failed
    rw [if_pos empty]
    cases tokens <;> exact ⟨rfl, rfl⟩
  · rw [if_neg empty] at failed
    cases run : State.initial.run nestingLimit tokens with
    | ok expr =>
        rw [run] at failed
        cases failed
    | error shown =>
        obtain ⟨fault, rest⟩ := shown
        rw [run] at failed
        cases failed
        refine ⟨fault, rest, rfl, ?_⟩
        rw [if_neg empty]
        cases rest <;> exact ⟨rfl, rfl⟩

/-- The place at which an error shows, behind the tokens `before`: these can be completed to a query, and
with the first token of the rest they cannot, unless it is the end marker. -/
structure ShowsAt (before rest : List Token) (error : GrammarError) : Prop where
  notEnd : ∀ token ∈ before, token.isEnd = false
  shown : error = grammarError (before ++ rest) error.fault rest
  viable : ∃ others expr, ofTokens (before ++ others) = .ok expr
  dead : ∀ token behind, rest = token :: behind → token.isEnd = false →
    ∀ others expr, ofTokens (before ++ token :: others) ≠ .ok expr

theorem State.Leads.showsAt {before rest : List Token} {following : State}
    {fault : GrammarFault} {error : GrammarError}
    (leads : State.Leads nestingLimit State.initial before following)
    (refuses : State.Refuses nestingLimit following fault rest)
    (shown : error = grammarError (before ++ rest) error.fault rest) :
    ShowsAt before rest error := by
  refine ⟨leads.isEnd_eq_false, shown, ?_, ?_⟩
  · obtain ⟨others, expr, completed⟩ :=
      State.exists_completion nestingLimit following
    rw [← leads.run_append] at completed
    exact ⟨others, expr, ofTokens_eq_ok_iff.mpr completed⟩
  · rintro token behind rfl notEnd others expr accepted
    have accepted' := ofTokens_eq_ok_iff.mp accepted
    cases refuses with
    | ending ending =>
        have isEnd : token.isEnd = true := ending
        rw [notEnd] at isEnd
        cases isEnd
    | token _ refused =>
        rw [leads.run_append, State.run_cons_of_error notEnd refused] at accepted'
        cases accepted'

/-- What is found at the end is the end, with or without a marker. -/
theorem found_of_ending {tokens rest : List Token} {fault : GrammarFault}
    (ending : isEmptyQuery rest = true) :
    (grammarError tokens fault rest).found = .endOfQuery := by
  cases rest with
  | nil => rfl
  | cons token rest =>
      obtain ⟨lexeme, position⟩ := token
      cases lexeme with
      | endOfQuery => rfl
      | _ => cases ending

/-- Tokens that are no expression have a place where the fault shows: the tokens in front of it can be
completed, and with a token there that is not the end they cannot. -/
theorem eq_append_of_ofTokens_error {tokens : List Token}
    {error : GrammarError} (failed : ofTokens tokens = .error error) :
    ∃ before rest, tokens = before ++ rest ∧ ShowsAt before rest error := by
  obtain ⟨fault, rest, run, shown, _⟩ := run_of_ofTokens_error failed
  obtain ⟨before, following, rfl, leads, refuses⟩ :=
    State.exists_leads_of_run_error run
  exact ⟨before, rest, rfl, leads.showsAt refuses shown⟩

end Faults

/-! ## Queries -/

section Queries

theorem ofTokens_of_ofText_error {query : String} {tokens : List Token}
    {error : GrammarError} (read : Token.ofText query = .ok tokens)
    (failed : ofText query = .error (.grammar error)) :
    ofTokens tokens = .error error := by
  rw [ofText_of_tokens read] at failed
  cases taken : ofTokens tokens with
  | ok expr =>
      rw [taken] at failed
      cases failed
  | error other =>
      rw [taken] at failed
      cases failed
      rfl

/-- The position of a grammar error in a query belongs to exactly one token. The tokens in front of it are
the beginning of a query, and no query begins with them and this token, unless it is the end marker. -/
theorem exists_place_of_error {query : String} {tokens : List Token}
    {error : GrammarError} (read : Token.ofText query = .ok tokens)
    (failed : ofText query = .error (.grammar error)) :
    ∃ index token, tokens[index]? = some token ∧
      token.position = error.position ∧
      (∀ otherIndex other, tokens[otherIndex]? = some other →
        other.position = error.position → otherIndex = index) ∧
      (∃ others expr, ofTokens (tokens.take index ++ others) = .ok expr) ∧
      (token.isEnd = false → ∀ others expr,
        ofTokens (tokens.take (index + 1) ++ others) ≠ .ok expr) := by
  have increasing := (Cursor.positions_of_tokens read).2
  obtain ⟨before, rest, rfl, noEnd, shown, viable, dead⟩ :=
    eq_append_of_ofTokens_error (ofTokens_of_ofText_error read failed)
  cases rest with
  | nil =>
      -- The end marker is among the tokens, so the fault cannot show behind all of them.
      obtain ⟨others, ended, _⟩ := Token.exists_append_end read
      rw [List.append_nil] at ended
      have isEnd := noEnd ⟨.endOfQuery, query.utf8ByteSize⟩ (by simp [ended])
      cases isEnd
  | cons token behind =>
      have found : (before ++ token :: behind)[before.length]? = some token := by
        simp
      have position : token.position = error.position := by
        rw [shown]
        rfl
      refine ⟨before.length, token, found, position, ?_, ?_, ?_⟩
      · intro otherIndex other otherFound same
        exact Cursor.index_eq_of_position_eq increasing found otherFound
          (same.trans position.symm)
      · rw [List.take_left]
        exact viable
      · intro notEnd others expr accepted
        rw [List.take_append, List.take_of_length_le (Nat.le_succ _)] at accepted
        simp only [Nat.add_sub_cancel_left, List.take_succ_cons, List.take_zero,
          List.append_assoc, List.singleton_append] at accepted
        exact dead token behind rfl notEnd others expr accepted

theorem exists_place_of_error_unopened :
    Token.ofText "a) b" = .ok [⟨.string "a" false, 0⟩,
      ⟨.symbol .closeParen ")", 1⟩, ⟨.string "b" false, 3⟩,
      ⟨.endOfQuery, 4⟩] ∧
    ofText "a) b" =
      .error (.grammar ⟨.afterExpression, .symbol .closeParen ")", 1⟩) ∧
    (∃ others expr, ofTokens ([⟨.string "a" false, 0⟩] ++ others) = .ok expr) ∧
    ∀ others expr,
      ofTokens ([⟨.string "a" false, 0⟩, ⟨.symbol .closeParen ")", 1⟩] ++
        others) ≠ .ok expr := by
  have first : (Cursor.start "a) b".toList).next =
      (.ok ⟨.string "a" false, 0⟩, ⟨1, ") b".toList⟩) := rfl
  have second : (Cursor.mk 1 ") b".toList).next =
      (.ok ⟨.symbol .closeParen ")", 1⟩, ⟨2, " b".toList⟩) := rfl
  have third : (Cursor.mk 2 " b".toList).next =
      (.ok ⟨.string "b" false, 3⟩, ⟨4, []⟩) := rfl
  have read : Token.ofText "a) b" = .ok [⟨.string "a" false, 0⟩,
      ⟨.symbol .closeParen ")", 1⟩, ⟨.string "b" false, 3⟩,
      ⟨.endOfQuery, 4⟩] := by
    rw [Token.ofText, Cursor.tokens_of_next first rfl,
      Cursor.tokens_of_next second rfl, Cursor.tokens_of_next third rfl,
      Cursor.tokens_nil]
    rfl
  have failed : ofText "a) b" =
      .error (.grammar ⟨.afterExpression, .symbol .closeParen ")", 1⟩) := by
    rw [ofText_of_tokens read]
    rfl
  obtain ⟨index, token, found, _, unique, viable, dead⟩ :=
    exists_place_of_error read failed
  obtain rfl := unique 1 _ rfl rfl
  cases found
  exact ⟨read, failed, viable, dead rfl⟩

end Queries

end RecordQuery.Expr
