import RecordQuery.Proofs.FaultPlaces

/-!
# Which fault shows where

The reader keeps the parentheses that are still open, the innermost first. Its faults fall into kinds, and
each kind shows at few lexemes only: what cannot stand where an operand has to come next is AND, OR or a
closing parenthesis, what cannot stand behind a whole expression is a closing parenthesis, and a
parenthesis is found open at the end alone. The message of an error tells its kind.
-/

namespace RecordQuery

def Lexeme.isParen : Lexeme → Bool
  | symbol .openParen _ => true
  | symbol .closeParen _ => true
  | _ => false

namespace Expr

/-! ## Open parentheses -/

section OpenParentheses

/-- Rows of lexemes in which each parenthesis has its partner. -/
inductive Balanced : List Lexeme → Prop where
  | nil : Balanced []
  | other {lexeme : Lexeme} (notParen : lexeme.isParen = false) :
      Balanced [lexeme]
  | paren {inside : List Lexeme} (opening closing : String)
      (balanced : Balanced inside) :
      Balanced (.symbol .openParen opening ::
        (inside ++ [.symbol .closeParen closing]))
  | append {lexemes others : List Lexeme} (balanced : Balanced lexemes)
      (behind : Balanced others) :
      Balanced (lexemes ++ others)

/-- Tokens among which certain parentheses stay open, given by their positions, the innermost first. -/
inductive LeavesOpen : List Token → (positions : List Nat) → Prop where
  | none {tokens : List Token} (balanced : Balanced (tokens.map Token.lexeme)) :
      LeavesOpen tokens []
  | some {outer inside : List Token} {positions : List Nat}
      (spelling : String) (position : Nat) (outside : LeavesOpen outer positions)
      (balanced : Balanced (inside.map Token.lexeme)) :
      LeavesOpen (outer ++ ⟨.symbol .openParen spelling, position⟩ :: inside)
        (position :: positions)

variable {tokens others : List Token} {positions : List Nat}

theorem LeavesOpen.append_balanced (leaves : LeavesOpen tokens positions)
    (balanced : Balanced (others.map Token.lexeme)) :
    LeavesOpen (tokens ++ others) positions := by
  cases leaves with
  | none before =>
      refine .none ?_
      rw [List.map_append]
      exact before.append balanced
  | some spelling position outside inside =>
      rw [List.append_assoc, List.cons_append]
      refine .some spelling position outside ?_
      rw [List.map_append]
      exact inside.append balanced

/-- A closing parenthesis closes the innermost open one. -/
theorem LeavesOpen.closed {innermost : Nat}
    (leaves : LeavesOpen tokens (innermost :: positions))
    (closing : String) (position : Nat) :
    LeavesOpen (tokens ++ [⟨.symbol .closeParen closing, position⟩])
      positions := by
  cases leaves with
  | some opening _ outside inside =>
      rw [List.append_assoc]
      refine outside.append_balanced ?_
      simpa using Balanced.paren opening closing inside

namespace State

variable {limit : Nat} {state following : State} {token : Token}

/-- The positions of the open parentheses. -/
def openPositions (state : State) : List Nat :=
  state.enclosing.map OpenParen.position

/-- The reader keeps exactly the parentheses that stay open. -/
theorem leavesOpen_step (leaves : LeavesOpen tokens state.openPositions)
    (step : state.step limit token = .ok following) :
    LeavesOpen (tokens ++ [token]) following.openPositions := by
  obtain ⟨lexeme, position⟩ := token
  -- All lexemes but parentheses keep the open ones as they are.
  have kept (notParen : lexeme.isParen = false)
      (same : following.enclosing = state.enclosing) :
      LeavesOpen (tokens ++ [⟨lexeme, position⟩]) following.openPositions := by
    rw [openPositions, same]
    exact leaves.append_balanced (.other notParen)
  rw [State.step] at step
  cases lexeme with
  | string =>
      cases step
      exact kept rfl rfl
  | property key =>
      cases key with
      | none => cases step
      | some key =>
          cases step
          exact kept rfl rfl
  | endOfQuery => cases step
  | symbol meaning spelling =>
      cases meaning with
      | and =>
          refine kept rfl ?_
          simp only [symbol, conjunction] at step
          split at step <;> cases step
          rfl
      | or =>
          refine kept rfl ?_
          simp only [symbol, disjunction] at step
          split at step <;> cases step
          rfl
      | not =>
          refine kept rfl ?_
          simp only [symbol, negation] at step
          split at step <;> cases step
          rfl
      | openParen =>
          simp only [symbol, openParen] at step
          split at step <;> cases step
          exact .some spelling position leaves .nil
      | closeParen =>
          simp only [symbol, closeParen] at step
          split at step
          · cases step
          · split at step
            · cases step
            · next paren enclosing isEnclosed =>
                cases step
                rw [openPositions, isEnclosed, List.map_cons] at leaves
                exact leaves.closed spelling position
      | _ =>
          cases step
          exact kept rfl rfl

theorem Leads.leavesOpen (leads : Leads limit state tokens following) :
    ∀ {before : List Token}, LeavesOpen before state.openPositions →
      LeavesOpen (before ++ tokens) following.openPositions := by
  induction leads with
  | none =>
      intro before leaves
      rw [List.append_nil]
      exact leaves
  | some _ step _ inductionHypothesis =>
      intro before leaves
      have behind := inductionHypothesis (leavesOpen_step leaves step)
      rw [List.append_assoc, List.singleton_append] at behind
      exact behind

end State

end OpenParentheses

/-! ## Kinds of faults -/

section Kinds

/-- Behind the tokens `before`, a fault can show at the first of certain tokens, or at the end. -/
inductive CanShow (before : List Token) : GrammarFault → List Token → Prop where
  | emptyQuery {rest : List Token} (ending : isEmptyQuery rest = true) :
      CanShow before .emptyQuery rest
  | endOfQuery {rest : List Token} (ending : isEmptyQuery rest = true) :
      CanShow before .unexpected rest
  | unexpected {meaning : Symbol} (spelling : String) (position : Nat)
      (rest : List Token)
      (refused : meaning ∈ [Symbol.and, .or, .closeParen]) :
      CanShow before .unexpected (⟨.symbol meaning spelling, position⟩ :: rest)
  | afterExpression (spelling : String) (position : Nat) (rest : List Token) :
      CanShow before .afterExpression
        (⟨.symbol .closeParen spelling, position⟩ :: rest)
  | keylessProperty (value : String) (position : Nat) (rest : List Token) :
      CanShow before .keylessProperty (⟨.property none value, position⟩ :: rest)
  | unclosedParen {position : Nat} {positions : List Nat} {rest : List Token}
      (ending : isEmptyQuery rest = true)
      (leaves : LeavesOpen before (position :: positions)) :
      CanShow before (.unclosedParen position) rest
  | nestedTooDeeply {meaning : Symbol} (spelling : String) (position : Nat)
      (rest : List Token) (nests : meaning ∈ [Symbol.not, .openParen]) :
      CanShow before .nestedTooDeeply
        (⟨.symbol meaning spelling, position⟩ :: rest)

variable {limit : Nat} {state : State} {before rest : List Token}
  {fault : GrammarFault}

theorem State.canShow_of_step_error {token : Token}
    (notEnd : token.isEnd = false)
    (step : state.step limit token = .error fault) :
    CanShow before fault (token :: rest) := by
  obtain ⟨lexeme, position⟩ := token
  rw [State.step] at step
  cases lexeme with
  | string => cases step
  | property key value =>
      cases key <;> cases step
      exact .keylessProperty value position rest
  | endOfQuery => cases notEnd
  | symbol meaning spelling =>
      cases meaning with
      | and =>
          simp only [symbol, conjunction] at step
          split at step <;> cases step
          exact .unexpected spelling position rest (by decide)
      | or =>
          simp only [symbol, disjunction] at step
          split at step <;> cases step
          exact .unexpected spelling position rest (by decide)
      | not =>
          simp only [symbol, negation] at step
          split at step <;> cases step
          exact .nestedTooDeeply spelling position rest (by decide)
      | openParen =>
          simp only [symbol, openParen] at step
          split at step <;> cases step
          exact .nestedTooDeeply spelling position rest (by decide)
      | closeParen =>
          simp only [symbol, closeParen] at step
          split at step
          · cases step
            exact .unexpected spelling position rest (by decide)
          · split at step <;> cases step
            exact .afterExpression spelling position rest
      | _ => cases step

theorem State.canShow_of_finish_error
    (leaves : LeavesOpen before state.openPositions)
    (ending : isEmptyQuery rest = true)
    (finish : state.finish = .error fault) : CanShow before fault rest := by
  rw [State.finish] at finish
  split at finish
  · cases finish
    exact .endOfQuery ending
  · split at finish
    · cases finish
    · next paren enclosing isEnclosed =>
        cases finish
        rw [openPositions, isEnclosed, List.map_cons] at leaves
        exact .unclosedParen ending leaves

theorem State.Refuses.canShow
    (refuses : Refuses limit state fault rest)
    (leaves : LeavesOpen before state.openPositions) :
    CanShow before fault rest := by
  cases refuses with
  | ending ending finish => exact canShow_of_finish_error leaves ending finish
  | token notEnd step => exact canShow_of_step_error notEnd step

/-- The fault of an error can show at the place of the error. -/
theorem exists_canShow_of_error {tokens : List Token} {error : GrammarError}
    (failed : ofTokens tokens = .error error) :
    ∃ before rest, tokens = before ++ rest ∧ ShowsAt before rest error ∧
      CanShow before error.fault rest := by
  obtain ⟨fault, rest, run, shown, sameFault⟩ := run_of_ofTokens_error failed
  obtain ⟨before, following, rfl, leads, refuses⟩ :=
    State.exists_leads_of_run_error run
  have noneOpen : LeavesOpen [] State.initial.openPositions := .none .nil
  have leaves : LeavesOpen before following.openPositions :=
    leads.leavesOpen noneOpen
  refine ⟨before, rest, rfl, leads.showsAt refuses shown, ?_⟩
  rw [sameFault]
  split
  · next ending =>
      obtain rfl := eq_nil_of_isEmptyQuery_append leads.isEnd_eq_false ending
      exact .emptyQuery ending
  · exact refuses.canShow leaves

end Kinds

/-! ## Messages -/

section Messages

variable {error : GrammarError} {described : String}

theorem message_of_unexpected (fault : error.fault = .unexpected) :
    error.message = "Unexpected " ++ error.found.describe := by
  obtain ⟨_, found, position⟩ := error
  cases fault
  rfl

theorem message_of_afterExpression (fault : error.fault = .afterExpression) :
    error.message =
      "Unexpected " ++ (error.found.describe ++ " after complete expression") := by
  obtain ⟨_, found, position⟩ := error
  cases fault
  exact String.append_assoc

theorem message_of_unclosedParen {position : Nat}
    (fault : error.fault = .unclosedParen position) :
    error.message = "Expected ')' to close " ++
      ("'(' at position " ++ toString position ++
        (", found " ++ error.found.describe)) := by
  obtain ⟨_, found, place⟩ := error
  cases fault
  change "Expected ')' to close '(' at position " ++ toString position ++
    ", found " ++ found.describe = _
  have prefixed : "Expected ')' to close '(' at position " =
    "Expected ')' to close " ++ "'(' at position " := by decide
  rw [prefixed]
  simp only [String.append_assoc]

theorem message_of_keylessProperty (fault : error.fault = .keylessProperty) :
    error.message =
      "Property token without a key: " ++ error.found.describe := by
  obtain ⟨_, found, position⟩ := error
  cases fault
  rfl

theorem fault_of_message_unexpected
    (message : error.message = "Unexpected " ++ described) :
    error.fault = .unexpected ∨ error.fault = .afterExpression := by
  have first := congrArg (·.toList.head?) message
  cases fault : error.fault with
  | unexpected => exact Or.inl rfl
  | afterExpression => exact Or.inr rfl
  | emptyQuery => simp [GrammarError.message, fault] at first
  | nestedTooDeeply => simp [GrammarError.message, fault] at first
  | keylessProperty =>
      simp [message_of_keylessProperty fault] at first
  | unclosedParen position =>
      simp [message_of_unclosedParen fault] at first

theorem fault_of_message_unclosedParen
    (message : error.message = "Expected ')' to close " ++ described) :
    ∃ position, error.fault = .unclosedParen position ∧
      described = "'(' at position " ++ toString position ++
        (", found " ++ error.found.describe) := by
  have beginning := congrArg (·.toList.take 2) message
  cases fault : error.fault with
  | unexpected => simp [message_of_unexpected fault] at beginning
  | afterExpression => simp [message_of_afterExpression fault] at beginning
  | emptyQuery => simp [GrammarError.message, fault] at beginning
  | nestedTooDeeply => simp [GrammarError.message, fault] at beginning
  | keylessProperty => simp [message_of_keylessProperty fault] at beginning
  | unclosedParen position =>
      rw [message_of_unclosedParen fault] at message
      exact ⟨position, rfl, ((String.append_right_inj _).mp message).symm⟩

/-- The descriptions of symbols and of the end do not end as a message about a whole expression does. -/
theorem describe_ne_append {lexeme : Lexeme}
    (symbolOrEnd : lexeme = .endOfQuery ∨
      ∃ meaning spelling, lexeme = .symbol meaning spelling) :
    lexeme.describe ≠ described ++ " after complete expression" := by
  intro same
  have last := congrArg (·.toList.getLast?) same
  rcases symbolOrEnd with rfl | ⟨meaning, spelling, rfl⟩
  · simp [Lexeme.describe] at last
  · simp [Lexeme.describe, List.getLast?_cons] at last

section Places

variable {before rest : List Token}

/-- What is unexpected after a complete expression is a closing parenthesis. -/
theorem closeParen_of_message (shows : ShowsAt before rest error)
    (canShow : CanShow before error.fault rest)
    (message : error.message =
      "Unexpected " ++ described ++ " after complete expression") :
    ∃ spelling position behind,
      rest = ⟨.symbol .closeParen spelling, position⟩ :: behind ∧
      described = "'" ++ spelling ++ "'" := by
  rw [String.append_assoc] at message
  rcases fault_of_message_unexpected message with fault | fault
  · -- A message about what is unexpected elsewhere ends in a description.
    rw [message_of_unexpected fault] at message
    have same := (String.append_right_inj _).mp message
    refine absurd same (describe_ne_append ?_)
    rw [fault] at canShow
    rw [shows.shown]
    cases canShow with
    | endOfQuery ending => exact Or.inl (found_of_ending ending)
    | unexpected spelling _ _ _ => exact Or.inr ⟨_, spelling, rfl⟩
  · rw [message_of_afterExpression fault] at message
    have same := (String.append_left_inj _).mp
      ((String.append_right_inj _).mp message)
    rw [fault] at canShow
    rw [shows.shown] at same
    cases canShow with
    | afterExpression spelling position behind =>
        exact ⟨spelling, position, behind, rfl, same.symm⟩

/-- A closing parenthesis is missed at the end of the query, for the open one behind which all others have
their partners. -/
theorem openParen_of_message (shows : ShowsAt before rest error)
    (canShow : CanShow before error.fault rest)
    (message : error.message = "Expected ')' to close " ++ described) :
    isEmptyQuery rest = true ∧
    ∃ outer spelling position inside,
      before = outer ++ ⟨.symbol .openParen spelling, position⟩ :: inside ∧
      Balanced (inside.map Token.lexeme) ∧
      described = "'(' at position " ++ toString position ++
        ", found end of query" := by
  obtain ⟨position, fault, rfl⟩ := fault_of_message_unclosedParen message
  rw [fault] at canShow
  cases canShow with
  | unclosedParen ending leaves =>
      refine ⟨ending, ?_⟩
      cases leaves with
      | some spelling _ _ balanced =>
          refine ⟨_, spelling, position, _, rfl, balanced, ?_⟩
          rw [shows.shown, found_of_ending ending]
          rfl

/-- What is unexpected elsewhere is the end, AND, OR or a closing parenthesis. -/
theorem unexpected_of_message (shows : ShowsAt before rest error)
    (canShow : CanShow before error.fault rest)
    (message : error.message = "Unexpected " ++ described)
    (plain : ∀ other, described ≠ other ++ " after complete expression") :
    (described = "end of query" ∧ isEmptyQuery rest = true) ∨
    ∃ meaning spelling position behind,
      rest = ⟨.symbol meaning spelling, position⟩ :: behind ∧
      meaning ∈ [Symbol.and, .or, .closeParen] ∧
      described = "'" ++ spelling ++ "'" := by
  rcases fault_of_message_unexpected message with fault | fault
  · rw [message_of_unexpected fault] at message
    have same := (String.append_right_inj _).mp message
    rw [fault] at canShow
    rw [shows.shown] at same
    cases canShow with
    | endOfQuery ending =>
        rw [found_of_ending ending] at same
        exact Or.inl ⟨same.symm, ending⟩
    | unexpected spelling position behind refused =>
        exact Or.inr ⟨_, spelling, position, behind, rfl, refused, same.symm⟩
  · rw [message_of_afterExpression fault] at message
    have same := (String.append_right_inj _).mp message
    exact absurd same.symm (plain _)

end Places

/-- The message of an error tells where it shows: at which symbols, or at the end of the query for which
open parenthesis. -/
theorem exists_place_of_message {tokens : List Token} {error : GrammarError}
    (failed : ofTokens tokens = .error error) :
    ∃ before rest, tokens = before ++ rest ∧ ShowsAt before rest error ∧
      (∀ described, error.message =
          "Unexpected " ++ described ++ " after complete expression" →
        ∃ spelling position behind,
          rest = ⟨.symbol .closeParen spelling, position⟩ :: behind ∧
          described = "'" ++ spelling ++ "'") ∧
      (∀ described, error.message = "Expected ')' to close " ++ described →
        isEmptyQuery rest = true ∧
        ∃ outer spelling position inside,
          before = outer ++ ⟨.symbol .openParen spelling, position⟩ :: inside ∧
          Balanced (inside.map Token.lexeme) ∧
          described = "'(' at position " ++ toString position ++
            ", found end of query") ∧
      ∀ described, error.message = "Unexpected " ++ described →
        (∀ other, described ≠ other ++ " after complete expression") →
        (described = "end of query" ∧ isEmptyQuery rest = true) ∨
        ∃ meaning spelling position behind,
          rest = ⟨.symbol meaning spelling, position⟩ :: behind ∧
          meaning ∈ [Symbol.and, .or, .closeParen] ∧
          described = "'" ++ spelling ++ "'" := by
  obtain ⟨before, rest, whole, shows, canShow⟩ := exists_canShow_of_error failed
  exact ⟨before, rest, whole, shows,
    fun _ => closeParen_of_message shows canShow,
    fun _ => openParen_of_message shows canShow,
    fun _ => unexpected_of_message shows canShow⟩

/-- In `((x) y` the first parenthesis is the innermost open one. -/
theorem exists_place_of_message_unclosed :
    let tokens : List Token := [⟨.symbol .openParen "(", 0⟩,
      ⟨.symbol .openParen "(", 1⟩, ⟨.string "x" false, 2⟩,
      ⟨.symbol .closeParen ")", 3⟩, ⟨.string "y" false, 5⟩, ⟨.endOfQuery, 6⟩]
    ofTokens tokens = .error ⟨.unclosedParen 0, .endOfQuery, 6⟩ ∧
    ∃ outer spelling position inside rest,
      tokens = outer ++ ⟨.symbol .openParen spelling, position⟩ :: inside ++ rest ∧
      Balanced (inside.map Token.lexeme) ∧ isEmptyQuery rest = true ∧
      "'(' at position 0, found end of query" =
        "'(' at position " ++ toString position ++ ", found end of query" := by
  intro tokens
  have failed : ofTokens tokens =
      .error ⟨.unclosedParen 0, .endOfQuery, 6⟩ := rfl
  obtain ⟨before, rest, whole, _, _, missed, _⟩ := exists_place_of_message failed
  obtain ⟨ending, outer, spelling, position, inside, rfl, balanced, named⟩ :=
    missed "'(' at position 0, found end of query" (by decide)
  exact ⟨failed, outer, spelling, position, inside, rest, whole, balanced, ending,
    named⟩

end Messages

end Expr

end RecordQuery
