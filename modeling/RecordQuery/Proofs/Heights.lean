import RecordQuery.Proofs.RoundTrip

/-!
# The height of expressions

Parentheses and negations are counted while tokens are read, but conjunctions, disjunctions and the marks
that stand for more than one condition make an expression higher too. Between two levels of nesting they
add one conjunction and one disjunction at most, so the limit on nesting bounds the height.
-/

namespace RecordQuery.Expr

/-! ## Operands -/

section Operands

theorem heightOfList_le_iff {operands : List Expr} {bound : Nat} :
    heightOfList operands ≤ bound ↔
      ∀ operand ∈ operands, operand.height ≤ bound := by
  induction operands with
  | nil => simp [heightOfList]
  | cons operand rest inductionHypothesis =>
      rw [heightOfList, Nat.max_le, inductionHypothesis,
        List.forall_mem_cons]

variable {exprs : List Expr} {bound : Nat}

theorem height_allOf_le (bounded : ∀ expr ∈ exprs, expr.height ≤ bound) :
    (allOf exprs).height ≤ bound + 1 := by
  have whole := Nat.succ_le_succ (heightOfList_le_iff.mpr bounded)
  match exprs, bounded, whole with
  | [], _, whole => exact whole
  | [expr], bounded, _ =>
      exact Nat.le_succ_of_le (bounded expr List.mem_cons_self)
  | _ :: _ :: _, _, whole => exact whole

theorem height_anyOf_le (bounded : ∀ expr ∈ exprs, expr.height ≤ bound) :
    (anyOf exprs).height ≤ bound + 1 := by
  have whole := Nat.succ_le_succ (heightOfList_le_iff.mpr bounded)
  match exprs, bounded, whole with
  | [], _, whole => exact whole
  | [expr], bounded, _ =>
      exact Nat.le_succ_of_le (bounded expr List.mem_cons_self)
  | _ :: _ :: _, _, whole => exact whole

/-- One more operand, of its own nesting, behind others. -/
theorem heights_concat_le {last : Expr} {nesting nesting' extra : Nat}
    (earlier : ∀ expr ∈ exprs, expr.height ≤ 2 * nesting + extra)
    (added : last.height ≤ 2 * nesting' + extra) :
    ∀ expr ∈ exprs ++ [last],
      expr.height ≤ 2 * max nesting nesting' + extra := by
  refine forall_mem_concat (fun expr member => ?_) (by omega)
  have bounded := earlier expr member
  omega

end Operands

/-! ## Derived expressions -/

section Derived

theorem IsAtom.height_le {lexeme : Lexeme} {expr : Expr}
    (atom : IsAtom lexeme expr) : expr.height ≤ 2 := by
  cases atom with
  | string => exact Nat.le_succ 1
  | property => exact Nat.le_succ 1
  | signal => exact Nat.le_succ 1
  | noSignal => exact Nat.le_refl 2
  | anySignal => exact Nat.le_refl 2

-- By induction on the derivation. Each level of nesting makes room for two levels of height: a negation
-- takes up one of them, parentheses both, for a disjunction inside and a conjunction in it.
mutual

theorem Operand.height_le :
    ∀ {lexemes : List Lexeme} {expr : Expr} {nesting : Nat},
      Operand lexemes expr nesting → expr.height ≤ 2 * nesting + 2
  | _, _, _, .atom atom => atom.height_le
  | _, _, _, .negation _ operand => by
      have inner := operand.height_le
      rw [height]
      omega
  | _, _, _, .paren _ _ inner => height_anyOf_le inner.height_le

theorem Conjunction.height_le :
    ∀ {lexemes : List Lexeme} {exprs : List Expr} {nesting : Nat},
      Conjunction lexemes exprs nesting →
        ∀ expr ∈ exprs, expr.height ≤ 2 * nesting + 2
  | _, _, _, .single operand => by
      simpa using operand.height_le
  | _, _, _, .adjacent before operand =>
      heights_concat_le before.height_le operand.height_le
  | _, _, _, .joined _ before operand =>
      heights_concat_le before.height_le operand.height_le

theorem Disjunction.height_le :
    ∀ {lexemes : List Lexeme} {exprs : List Expr} {nesting : Nat},
      Disjunction lexemes exprs nesting →
        ∀ expr ∈ exprs, expr.height ≤ 2 * nesting + 3
  | _, _, _, .single conjunction => by
      simpa using height_allOf_le conjunction.height_le
  | _, _, _, .joined _ before conjunction =>
      heights_concat_le before.height_le
        (height_allOf_le conjunction.height_le)

end

/-- What a row of lexemes spells is no higher than twice its nesting, and four. -/
theorem Spells.height_le {lexemes : List Lexeme} {expr : Expr}
    {nesting : Nat} (spelled : Spells lexemes expr nesting) :
    expr.height ≤ 2 * nesting + 4 := by
  obtain ⟨exprs, disjunction, rfl⟩ := spelled
  exact height_anyOf_le disjunction.height_le

end Derived

/-! ## Accepted tokens and queries -/

section Accepted

/-- Whatever is read, from tokens or from a query, is well-formed and of limited height. -/
theorem wellFormed_and_height_le {expr : Expr}
    (accepted : (∃ tokens, ofTokens tokens = .ok expr) ∨
      ∃ query, ofText query = .ok expr) :
    expr.WellFormed ∧ expr.height ≤ 2 * (nestingLimit + 1) + 2 := by
  have spells : ∃ lexemes nesting,
      nesting ≤ nestingLimit ∧ Spells lexemes expr nesting := by
    rcases accepted with ⟨tokens, taken⟩ | ⟨query, read⟩
    · obtain ⟨nesting, within, spelled⟩ :=
        spells_of_run (ofTokens_eq_ok_iff.mp taken)
      exact ⟨_, nesting, within, spelled⟩
    · obtain ⟨_, nesting, _, within, spelled⟩ := spells_of_ofText read
      exact ⟨_, nesting, within, spelled⟩
  obtain ⟨lexemes, nesting, within, spelled⟩ := spells
  have bound := spelled.height_le
  exact ⟨spelled.wellFormed, by omega⟩

theorem wellFormed_and_height_le_unended :
    ofTokens [⟨.symbol .not "!", 0⟩, ⟨.symbol .openParen "(", 1⟩,
      ⟨.string "a" false, 2⟩, ⟨.symbol .or "OR", 4⟩,
      ⟨.symbol .anySignal "*", 7⟩, ⟨.string "b" true, 9⟩,
      ⟨.symbol .closeParen ")", 13⟩] =
        .ok (not (or [string "a" false, and [anySignal, string "b" true]])) ∧
    (not (or [string "a" false,
      and [anySignal, string "b" true]])).WellFormed ∧
    (not (or [string "a" false,
      and [anySignal, string "b" true]])).height ≤ 516 := by
  have taken : ofTokens [⟨.symbol .not "!", 0⟩, ⟨.symbol .openParen "(", 1⟩,
      ⟨.string "a" false, 2⟩, ⟨.symbol .or "OR", 4⟩,
      ⟨.symbol .anySignal "*", 7⟩, ⟨.string "b" true, 9⟩,
      ⟨.symbol .closeParen ")", 13⟩] =
        .ok (not (or [string "a" false,
          and [anySignal, string "b" true]])) := rfl
  exact ⟨taken, wellFormed_and_height_le (Or.inl ⟨_, taken⟩)⟩

end Accepted

end RecordQuery.Expr
