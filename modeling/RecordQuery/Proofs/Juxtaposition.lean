import RecordQuery.Proofs.Reading

/-!
# Operands next to each other

Operands that stand next to each other are joined by AND, so the word for it says nothing new: between
two operands it may be left out or put in. This rests on one fact about the reader. A lexeme with which
an operand begins is taken up in the same way whether or not an operand has to come next; where one has
to, all other lexemes are refused.
-/

namespace RecordQuery

namespace Lexeme

def isAnd : Lexeme → Bool
  | symbol .and _ => true
  | _ => false

/-- Whether an operand can begin with a lexeme. -/
def beginsOperand : Lexeme → Bool
  | string _ _ => true
  | property _ _ => true
  | symbol .and _ => false
  | symbol .or _ => false
  | symbol .closeParen _ => false
  | symbol _ _ => true
  | endOfQuery => false

/-- Whether an operand can end with a lexeme. -/
def endsOperand : Lexeme → Bool
  | string _ _ => true
  | property _ _ => true
  | symbol .and _ => false
  | symbol .or _ => false
  | symbol .not _ => false
  | symbol .openParen _ => false
  | symbol _ _ => true
  | endOfQuery => false

theorem exists_spelling_of_isAnd {lexeme : Lexeme}
    (isAnd : lexeme.isAnd = true) : ∃ spelling, lexeme = symbol .and spelling := by
  cases lexeme with
  | symbol meaning spelling =>
      cases meaning with
      | and => exact ⟨spelling, rfl⟩
      | _ => cases isAnd
  | _ => cases isAnd

theorem isEnd_eq_false_of_beginsOperand {lexeme : Lexeme}
    (begins : lexeme.beginsOperand = true) : lexeme.isEnd = false := by
  cases lexeme with
  | endOfQuery => cases begins
  | _ => rfl

end Lexeme

/-- Tokens, and the same ones without some of the words for AND among them. -/
inductive Token.WithoutWords : List Token → List Token → Prop where
  | nil : WithoutWords [] []
  | keep {tokens fewer : List Token} (token : Token)
      (behind : WithoutWords tokens fewer) :
      WithoutWords (token :: tokens) (token :: fewer)
  | drop {tokens fewer : List Token} {word : Token}
      (isAnd : word.lexeme.isAnd = true)
      (behind : WithoutWords tokens fewer) :
      WithoutWords (word :: tokens) fewer

namespace Expr

namespace State

variable {limit : Nat} {state following : State} {token : Token}
  {tokens : List Token} {expr : Expr}

/-! ## Where an operand has to come next -/

section WantingOperand

theorem step_wanting_of_beginsOperand
    (begins : token.lexeme.beginsOperand = true) :
    ({ state with wantsOperand := true } : State).step limit token =
      state.step limit token := by
  obtain ⟨lexeme, position⟩ := token
  cases lexeme with
  | string => rfl
  | property key _ => cases key <;> rfl
  | endOfQuery => cases begins
  | symbol meaning =>
      cases meaning with
      | and => cases begins
      | or => cases begins
      | closeParen => cases begins
      | _ => rfl

theorem step_wanting_of_not_beginsOperand
    (others : token.lexeme.beginsOperand = false) :
    ({ state with wantsOperand := true } : State).step limit token =
      .error .unexpected := by
  obtain ⟨lexeme, position⟩ := token
  cases lexeme with
  | string => cases others
  | property => cases others
  | endOfQuery => rfl
  | symbol meaning =>
      cases meaning with
      | and => rfl
      | or => rfl
      | closeParen => rfl
      | _ => cases others

theorem wantsOperand_eq_false_of_step
    (ends : token.lexeme.endsOperand = true)
    (step : state.step limit token = .ok following) :
    following.wantsOperand = false := by
  obtain ⟨lexeme, position⟩ := token
  cases lexeme with
  | string =>
      cases step
      rfl
  | property key _ =>
      cases key <;> cases step
      rfl
  | endOfQuery => cases ends
  | symbol meaning =>
      cases meaning with
      | and => cases ends
      | or => cases ends
      | not => cases ends
      | openParen => cases ends
      | closeParen =>
          change state.closeParen = .ok following at step
          rw [closeParen] at step
          split at step
          · cases step
          · split at step
            · cases step
            · cases step
              rfl
      | _ =>
          cases step
          rfl

theorem step_of_isAnd (isAnd : token.lexeme.isAnd = true) :
    state.step limit token = state.conjunction := by
  obtain ⟨lexeme, position⟩ := token
  obtain ⟨spelling, rfl⟩ := Lexeme.exists_spelling_of_isAnd isAnd
  rfl

theorem isEnd_eq_false_of_isAnd (isAnd : token.lexeme.isAnd = true) :
    token.isEnd = false := by
  obtain ⟨lexeme, position⟩ := token
  obtain ⟨spelling, rfl⟩ := Lexeme.exists_spelling_of_isAnd isAnd
  rfl

theorem conjunction_of_complete (complete : state.wantsOperand = false) :
    state.conjunction = .ok { state with wantsOperand := true } := by
  rw [conjunction, complete]
  rfl

theorem run_wanting_of_beginsOperand
    (begins : token.lexeme.beginsOperand = true) (rest : List Token) :
    ({ state with wantsOperand := true } : State).run limit (token :: rest) =
      state.run limit (token :: rest) := by
  have notEnd : token.isEnd = false := Lexeme.isEnd_eq_false_of_beginsOperand begins
  rw [run, run, notEnd, step_wanting_of_beginsOperand begins]
  rfl

/-- What is accepted where an operand has to come next is accepted where none has to. -/
theorem run_of_run_wanting
    (accepted : ({ state with wantsOperand := true } : State).run limit tokens =
      .ok expr) :
    state.run limit tokens = .ok expr := by
  cases tokens with
  | nil => cases accepted
  | cons token rest =>
      by_cases begins : token.lexeme.beginsOperand = true
      · rw [run_wanting_of_beginsOperand begins] at accepted
        exact accepted
      · have refused : ({ state with wantsOperand := true } : State).step limit
            token = .error .unexpected :=
          step_wanting_of_not_beginsOperand (eq_false_of_ne_true begins)
        by_cases isEnd : token.isEnd = true
        · have ending : isEmptyQuery (token :: rest) = true := isEnd
          cases finish_of_run_ending ending accepted
        · rw [run_cons_of_error (eq_false_of_ne_true isEnd) refused] at accepted
          cases accepted

end WantingOperand

/-! ## Runs with fewer or more words -/

section Words

/-- A row may be changed behind a token as it may be changed for the state that the token leads to. -/
theorem run_cons_of_behind {rest others : List Token}
    (behind : ∀ following : State, state.step limit token = .ok following →
      following.run limit rest = .ok expr →
        following.run limit others = .ok expr)
    (accepted : state.run limit (token :: rest) = .ok expr) :
    state.run limit (token :: others) = .ok expr := by
  by_cases isEnd : token.isEnd = true
  · have ending : isEmptyQuery (token :: rest) = true := isEnd
    have otherEnding : isEmptyQuery (token :: others) = true := isEnd
    rw [run_ending state otherEnding, finish_of_run_ending ending accepted]
    rfl
  · have notEnd := eq_false_of_ne_true isEnd
    cases stepped : state.step limit token with
    | error fault =>
        rw [run_cons_of_error notEnd stepped] at accepted
        cases accepted
    | ok following =>
        rw [run_cons_of_ok notEnd stepped] at accepted ⊢
        exact behind following stepped accepted

theorem run_of_withoutWords {fewer : List Token}
    (without : Token.WithoutWords tokens fewer) :
    ∀ {state : State}, state.run limit tokens = .ok expr →
      state.run limit fewer = .ok expr := by
  induction without with
  | nil => exact fun accepted => accepted
  | keep token behind inductionHypothesis =>
      exact run_cons_of_behind fun _ _ => inductionHypothesis
  | @drop tokens fewer word isAnd behind inductionHypothesis =>
      intro state accepted
      have notEnd : word.isEnd = false := isEnd_eq_false_of_isAnd isAnd
      have step : state.step limit word = state.conjunction :=
        step_of_isAnd isAnd
      by_cases complete : state.wantsOperand = false
      · rw [conjunction_of_complete complete] at step
        rw [run_cons_of_ok notEnd step] at accepted
        exact inductionHypothesis (run_of_run_wanting accepted)
      · rw [conjunction, eq_true_of_ne_false complete] at step
        rw [run_cons_of_error notEnd step] at accepted
        cases accepted

theorem run_of_more_words {first word second : Token}
    (ends : first.lexeme.endsOperand = true)
    (isAnd : word.lexeme.isAnd = true)
    (begins : second.lexeme.beginsOperand = true)
    (before behind : List Token) :
    ∀ {state : State},
      state.run limit (before ++ first :: second :: behind) = .ok expr →
        state.run limit (before ++ first :: word :: second :: behind) =
          .ok expr := by
  induction before with
  | nil =>
      intro state
      refine run_cons_of_behind fun middle stepped accepted => ?_
      have complete := wantsOperand_eq_false_of_step ends stepped
      have wordStep : middle.step limit word = middle.conjunction :=
        step_of_isAnd isAnd
      rw [conjunction_of_complete complete] at wordStep
      rw [run_cons_of_ok (isEnd_eq_false_of_isAnd isAnd) wordStep,
        run_wanting_of_beginsOperand begins]
      exact accepted
  | cons token before inductionHypothesis =>
      exact run_cons_of_behind fun _ _ => inductionHypothesis

end Words

end State

/-! ## Queries -/

section Queries

/-- What tokens are read as stays the same if words for AND are left out among them, and if one is put in
between an operand and the next. -/
theorem ofTokens_of_words {tokens : List Token} {expr : Expr}
    (accepted : ofTokens tokens = .ok expr) :
    (∀ fewer, Token.WithoutWords tokens fewer → ofTokens fewer = .ok expr) ∧
    ∀ before behind first second word,
      tokens = before ++ first :: second :: behind →
      first.lexeme.endsOperand = true → second.lexeme.beginsOperand = true →
      word.lexeme.isAnd = true →
        ofTokens (before ++ first :: word :: second :: behind) = .ok expr := by
  have run := ofTokens_eq_ok_iff.mp accepted
  constructor
  · intro fewer without
    exact ofTokens_eq_ok_iff.mpr (State.run_of_withoutWords without run)
  · rintro before behind first second word rfl ends begins isAnd
    exact ofTokens_eq_ok_iff.mpr
      (State.run_of_more_words ends isAnd begins before behind run)

/-- In `!(x OR y AND !!! z)` the word may be left out, and it may be put in before `z`. -/
theorem ofTokens_of_words_grouped :
    let before : List Token := [⟨.symbol .not "!", 0⟩,
      ⟨.symbol .openParen "(", 1⟩, ⟨.string "x" false, 2⟩,
      ⟨.symbol .or "OR", 4⟩, ⟨.string "y" false, 7⟩]
    let word : Token := ⟨.symbol .and "AND", 9⟩
    let mark : Token := ⟨.symbol (.signal .errorSuffix) "!!!", 13⟩
    let behind : List Token := [⟨.symbol .closeParen ")", 18⟩, ⟨.endOfQuery, 19⟩]
    let z : Token := ⟨.string "z" false, 17⟩
    let expr : Expr := not (or [string "x" false,
      and [string "y" false, signal .errorSuffix, string "z" false]])
    ofTokens (before ++ word :: mark :: z :: behind) = .ok expr ∧
    ofTokens (before ++ mark :: z :: behind) = .ok expr ∧
    ofTokens (before ++ word :: mark :: word :: z :: behind) = .ok expr := by
  intro before word mark behind z expr
  have accepted : ofTokens (before ++ word :: mark :: z :: behind) = .ok expr :=
    rfl
  obtain ⟨fewer, more⟩ := ofTokens_of_words accepted
  refine ⟨accepted, fewer _ ?_, ?_⟩
  · exact .keep _ <| .keep _ <| .keep _ <| .keep _ <| .keep _ <| .drop rfl <|
      .keep _ <| .keep _ <| .keep _ <| .keep _ .nil
  · exact more (before ++ [word]) behind mark z word rfl rfl rfl rfl

end Queries

end Expr

end RecordQuery
