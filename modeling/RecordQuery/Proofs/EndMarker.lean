import RecordQuery.Proofs.FaultPlaces

/-!
# The end marker

A query may lack its end marker, and nothing behind the marker is looked at. So the outcome of reading
tokens does not depend on whether a marker follows them, nor on what follows the marker; only the position
of a fault that shows at the end is then taken from the marker.
-/

namespace RecordQuery.Expr

section EndMarker

variable {tokens ending : List Token}

theorem isEmptyQuery_append_ending
    (noEnd : ∀ token ∈ tokens, token.isEnd = false)
    (ends : isEmptyQuery ending = true) :
    isEmptyQuery (tokens ++ ending) = isEmptyQuery tokens := by
  cases tokens with
  | nil => exact ends
  | cons token tokens => rfl

/-- A run goes through the tokens in front of an ending as if they were all, and what it leaves of them it
leaves with the ending. -/
theorem State.run_append_ending {limit : Nat}
    (noEnd : ∀ token ∈ tokens, token.isEnd = false)
    (ends : isEmptyQuery ending = true) :
    ∀ state : State, state.run limit (tokens ++ ending) =
      (state.run limit tokens).mapError fun (fault, rest) =>
        (fault, rest ++ ending) := by
  induction tokens with
  | nil =>
      intro state
      rw [List.nil_append, run_ending state ends, run_ending state rfl]
      cases state.finish <;> rfl
  | cons token tokens inductionHypothesis =>
      intro state
      obtain ⟨notEnd, noEndBehind⟩ := List.forall_mem_cons.mp noEnd
      rw [List.cons_append]
      cases stepped : state.step limit token with
      | error fault =>
          rw [run_cons_of_error notEnd stepped, run_cons_of_error notEnd stepped]
          rfl
      | ok following =>
          rw [run_cons_of_ok notEnd stepped, run_cons_of_ok notEnd stepped]
          exact inductionHypothesis noEndBehind following

theorem ofTokens_append_of_ok {expr : Expr}
    (noEnd : ∀ token ∈ tokens, token.isEnd = false)
    (ends : isEmptyQuery ending = true)
    (accepted : ofTokens tokens = .ok expr) :
    ofTokens (tokens ++ ending) = .ok expr := by
  have run := ofTokens_eq_ok_iff.mp accepted
  rw [ofTokens_eq_ok_iff, State.run_append_ending noEnd ends, run]
  rfl

/-- An error in front of an ending has the fault that it has without the ending, at the same place. -/
theorem ofTokens_append_of_error {error : GrammarError}
    (noEnd : ∀ token ∈ tokens, token.isEnd = false)
    (failed : ofTokens tokens = .error error) :
    ∃ before rest, tokens = before ++ rest ∧ ShowsAt before rest error ∧
      ∀ ending, isEmptyQuery ending = true →
        ofTokens (tokens ++ ending) =
          .error (grammarError (tokens ++ ending) error.fault (rest ++ ending)) := by
  obtain ⟨fault, rest, run, shown, sameFault⟩ := run_of_ofTokens_error failed
  obtain ⟨before, following, whole, leads, refuses⟩ :=
    State.exists_leads_of_run_error run
  refine ⟨before, rest, whole, leads.showsAt refuses (whole ▸ shown), ?_⟩
  intro ending ends
  rw [ofTokens, isEmptyQuery_append_ending noEnd ends, sameFault]
  by_cases empty : isEmptyQuery tokens = true
  · -- An empty query has its fault at its first token, so nothing is in front of it.
    rw [whole] at empty ⊢
    obtain rfl := eq_nil_of_isEmptyQuery_append leads.isEnd_eq_false empty
    rw [if_pos empty, if_pos empty]
    rfl
  · rw [if_neg empty, if_neg empty, State.run_append_ending noEnd ends, run]
    rfl

theorem message_congr {error other : GrammarError}
    (fault : error.fault = other.fault) (found : error.found = other.found) :
    error.message = other.message := by
  rw [GrammarError.message, GrammarError.message, fault, found]

/-- Of an ending an error shows the first token at most. -/
theorem grammarError_append_cons (others : List Token) (fault : GrammarFault)
    (rest : List Token) (marker : Token) (junk : List Token) :
    grammarError tokens fault (rest ++ marker :: junk) =
      grammarError others fault (rest ++ [marker]) := by
  cases rest <;> rfl

/-- An error that shows at a token in front of an ending is the same without the ending. -/
theorem ShowsAt.append_ending {before rest : List Token} {error : GrammarError}
    (shows : ShowsAt before rest error) (inFront : rest ≠ [])
    (others ending : List Token) :
    grammarError others error.fault (rest ++ ending) = error := by
  cases rest with
  | nil => exact absurd rfl inFront
  | cons token rest => exact shows.shown.symm

theorem ShowsAt.message_append_ending {before rest : List Token}
    {error : GrammarError} (shows : ShowsAt before rest error)
    (ends : isEmptyQuery ending = true) (others : List Token) :
    (grammarError others error.fault (rest ++ ending)).message =
      error.message := by
  cases rest with
  | nil =>
      have fault : (grammarError others error.fault ending).fault =
          error.fault := by
        cases ending <;> rfl
      have found : error.found = .endOfQuery := by
        rw [shows.shown, found_of_ending rfl]
      exact message_congr fault ((found_of_ending ends).trans found.symm)
  | cons token rest =>
      rw [shows.append_ending (List.cons_ne_nil token rest)]

/-- The end marker may be missing, and what stands behind it does not matter: tokens without it are the
same expression with it, or no expression for the same reason, which shows at the same token if it is one
of them. -/
theorem ofTokens_ended {marker : Token}
    (noEnd : ∀ token ∈ tokens, token.isEnd = false)
    (isEnd : marker.isEnd = true) (junk : List Token) :
    (∃ expr, ofTokens tokens = .ok expr ∧
      ofTokens (tokens ++ [marker]) = .ok expr ∧
      ofTokens (tokens ++ [marker] ++ junk) = .ok expr) ∨
    ∃ before rest error ended,
      tokens = before ++ rest ∧ ShowsAt before rest error ∧
      ofTokens tokens = .error error ∧
      ofTokens (tokens ++ [marker]) = .error ended ∧
      ofTokens (tokens ++ [marker] ++ junk) = .error ended ∧
      ended.message = error.message ∧
      (rest ≠ [] → ended.position = error.position) ∧
      (rest = [] → error.position = endPosition tokens ∧
        ended.position = marker.position) := by
  have ends (behind : List Token) : isEmptyQuery (marker :: behind) = true := isEnd
  rw [List.append_assoc, List.singleton_append]
  cases read : ofTokens tokens with
  | ok expr =>
      exact Or.inl ⟨expr, rfl, ofTokens_append_of_ok noEnd (ends []) read,
        ofTokens_append_of_ok noEnd (ends junk) read⟩
  | error error =>
      obtain ⟨before, rest, whole, shows, ended⟩ :=
        ofTokens_append_of_error noEnd read
      have endedJunk := ended (marker :: junk) (ends junk)
      rw [grammarError_append_cons (tokens ++ [marker])] at endedJunk
      refine Or.inr ⟨before, rest, error, _, whole, shows, rfl,
        ended [marker] (ends []), endedJunk,
        shows.message_append_ending (ends []) _, ?_, ?_⟩
      · intro inFront
        rw [shows.append_ending inFront]
      · rintro rfl
        rw [shows.shown, whole]
        exact ⟨rfl, rfl⟩

/-- In `(x` the closing parenthesis is missed, even if one stands behind the end marker. -/
theorem ofTokens_ended_unclosed :
    let opening : Token := ⟨.symbol .openParen "(", 0⟩
    let x : Token := ⟨.string "x" false, 1⟩
    let marker : Token := ⟨.endOfQuery, 8⟩
    let closing : Token := ⟨.symbol .closeParen ")", 9⟩
    ofTokens [opening, x] = .error ⟨.unclosedParen 0, .endOfQuery, 2⟩ ∧
    ∃ ended, ofTokens [opening, x, marker, closing] = .error ended ∧
      ended.message = "Expected ')' to close '(' at position 0, found end of query" := by
  intro opening x marker closing
  have failed : ofTokens [opening, x] =
      .error ⟨.unclosedParen 0, .endOfQuery, 2⟩ := rfl
  have noEnd : ∀ token ∈ [opening, x], token.isEnd = false := by decide
  have isEnd : marker.isEnd = true := rfl
  refine ⟨failed, ?_⟩
  rcases ofTokens_ended noEnd isEnd [closing] with
    ⟨expr, accepted, _⟩ | ⟨_, _, error, ended, _, _, read, _, behind, same, _⟩
  · rw [failed] at accepted
    cases accepted
  · rw [failed] at read
    cases read
    exact ⟨ended, behind, same⟩

end EndMarker

end RecordQuery.Expr
