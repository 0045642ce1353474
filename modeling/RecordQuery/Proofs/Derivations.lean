import RecordQuery.Expr.Grammar
import RecordQuery.Proofs.Operands

/-!
# Derivations

What a row of lexemes spells is well-formed, and its canonical text nests at most one level deeper than
the row: the level is the parenthesis around the three signals that `*` stands for. Rows that spell
conjunctions or disjunctions can be joined by the word for it.
-/

namespace RecordQuery.Expr

/-! ## Joining derivations -/

section Joining

theorem Conjunction.append {lexemes others : List Lexeme}
    {exprs otherExprs : List Expr} {nesting nesting' : Nat}
    (spelling : String) (before : Conjunction lexemes exprs nesting) :
    Conjunction others otherExprs nesting' →
      Conjunction (lexemes ++ .symbol .and spelling :: others)
        (exprs ++ otherExprs) (max nesting nesting') := by
  intro behind
  match behind with
  | .single operand => exact .joined spelling before operand
  | .adjacent first operand =>
      have joined := (append spelling before first).adjacent operand
      simpa only [List.append_assoc, List.cons_append, Nat.max_assoc] using
        joined
  | .joined spelling' first operand =>
      have joined := (append spelling before first).joined spelling' operand
      simpa only [List.append_assoc, List.cons_append, Nat.max_assoc] using
        joined

theorem Disjunction.append {lexemes others : List Lexeme}
    {exprs otherExprs : List Expr} {nesting nesting' : Nat}
    (spelling : String) (before : Disjunction lexemes exprs nesting) :
    Disjunction others otherExprs nesting' →
      Disjunction (lexemes ++ .symbol .or spelling :: others)
        (exprs ++ otherExprs) (max nesting nesting') := by
  intro behind
  match behind with
  | .single conjunction => exact .joined spelling before conjunction
  | .joined spelling' first conjunction =>
      have joined :=
        (append spelling before first).joined spelling' conjunction
      simpa only [List.append_assoc, List.cons_append, Nat.max_assoc] using
        joined

theorem Conjunction.ne_nil {lexemes : List Lexeme} {exprs : List Expr}
    {nesting : Nat} (conjunction : Conjunction lexemes exprs nesting) :
    exprs ≠ [] := by
  cases conjunction <;> simp

theorem Disjunction.ne_nil {lexemes : List Lexeme} {exprs : List Expr}
    {nesting : Nat} (disjunction : Disjunction lexemes exprs nesting) :
    exprs ≠ [] := by
  cases disjunction <;> simp

/-- What holds of some expressions and of one more holds of them all. -/
theorem forall_mem_concat {exprs : List Expr} {last : Expr}
    {holds : Expr → Prop} (earlier : ∀ expr ∈ exprs, holds expr)
    (added : holds last) : ∀ expr ∈ exprs ++ [last], holds expr := by
  intro expr member
  rcases List.mem_append.mp member with before | isLast
  · exact earlier expr before
  · exact List.mem_singleton.mp isLast ▸ added

end Joining

/-! ## Well-formedness -/

section WellFormed

theorem IsAtom.wellFormed {lexeme : Lexeme} {expr : Expr}
    (atom : IsAtom lexeme expr) : expr.WellFormed := by
  cases atom with
  | string value caseSensitive => exact wellFormed_string value caseSensitive
  | property => trivial
  | signal asked => exact wellFormed_signal asked
  | noSignal asked => exact wellFormed_signal asked
  | anySignal => exact wellFormed_anySignal

mutual

theorem Operand.wellFormed :
    ∀ {lexemes : List Lexeme} {expr : Expr} {nesting : Nat},
      Operand lexemes expr nesting → expr.WellFormed
  | _, _, _, .atom atom => atom.wellFormed
  | _, _, _, .negation _ operand => by
      have inner := operand.wellFormed
      exact inner
  | _, _, _, .paren _ _ inner =>
      wellFormed_anyOf inner.ne_nil (allWellFormed_iff.mpr inner.wellFormed)

theorem Conjunction.wellFormed :
    ∀ {lexemes : List Lexeme} {exprs : List Expr} {nesting : Nat},
      Conjunction lexemes exprs nesting → ∀ expr ∈ exprs, expr.WellFormed
  | _, _, _, .single operand => by
      simpa using operand.wellFormed
  | _, _, _, .adjacent before operand =>
      forall_mem_concat before.wellFormed operand.wellFormed
  | _, _, _, .joined _ before operand =>
      forall_mem_concat before.wellFormed operand.wellFormed

theorem Disjunction.wellFormed :
    ∀ {lexemes : List Lexeme} {exprs : List Expr} {nesting : Nat},
      Disjunction lexemes exprs nesting → ∀ expr ∈ exprs, expr.WellFormed
  | _, _, _, .single conjunction => by
      have whole := wellFormed_allOf conjunction.ne_nil
        (allWellFormed_iff.mpr conjunction.wellFormed)
      simpa using whole
  | _, _, _, .joined _ before conjunction => by
      have whole := wellFormed_allOf conjunction.ne_nil
        (allWellFormed_iff.mpr conjunction.wellFormed)
      exact forall_mem_concat before.wellFormed whole

end

/-- What a row of lexemes spells is well-formed. -/
theorem Spells.wellFormed {lexemes : List Lexeme} {expr : Expr}
    {nesting : Nat} (spelled : Spells lexemes expr nesting) :
    expr.WellFormed := by
  obtain ⟨exprs, disjunction, rfl⟩ := spelled
  exact wellFormed_anyOf disjunction.ne_nil
    (allWellFormed_iff.mpr disjunction.wellFormed)

end WellFormed

/-! ## Nesting -/

section Nesting

/-- A canonical text may nest deeper than a row of lexemes by `slack` levels: by one if `*` occurs in
the row, by none otherwise. -/
def Slack (lexemes : List Lexeme) (slack : Nat) : Prop :=
  ∀ spelling, .symbol .anySignal spelling ∈ lexemes → 1 ≤ slack

namespace Slack

variable {lexemes others : List Lexeme} {slack : Nat}

theorem tail {lexeme : Lexeme} (enough : Slack (lexeme :: lexemes) slack) :
    Slack lexemes slack :=
  fun spelling member =>
    enough spelling (List.mem_cons_of_mem lexeme member)

theorem left (enough : Slack (lexemes ++ others) slack) :
    Slack lexemes slack :=
  fun spelling member =>
    enough spelling (List.mem_append_left others member)

theorem right (enough : Slack (lexemes ++ others) slack) :
    Slack others slack :=
  fun spelling member =>
    enough spelling (List.mem_append_right lexemes member)

end Slack

theorem nesting_allOf_le {exprs : List Expr} {bound : Nat}
    (bounded : ∀ expr ∈ exprs, expr.operandNesting ≤ bound) :
    (allOf exprs).nesting ≤ bound := by
  have conjunctBounded : ∀ expr ∈ exprs, expr.conjunctNesting ≤ bound :=
    fun expr member =>
      Nat.le_trans (conjunctNesting_le_operandNesting expr)
        (bounded expr member)
  match exprs, conjunctBounded with
  | [], _ => exact Nat.zero_le _
  | [expr], bounded =>
      exact Nat.le_trans (nesting_le_conjunctNesting expr)
        (bounded expr List.mem_cons_self)
  | first :: second :: rest, bounded =>
      exact nestingOfConjuncts_le_iff.mpr bounded

theorem nesting_anyOf_le {exprs : List Expr} {bound : Nat}
    (bounded : ∀ expr ∈ exprs, expr.nesting ≤ bound) :
    (anyOf exprs).nesting ≤ bound := by
  match exprs, bounded with
  | [], _ => exact Nat.zero_le _
  | [expr], bounded => exact bounded expr List.mem_cons_self
  | first :: second :: rest, bounded =>
      exact nestingOfDisjuncts_le_iff.mpr bounded

theorem IsAtom.operandNesting_le {lexeme : Lexeme} {expr : Expr}
    {slack : Nat} (atom : IsAtom lexeme expr)
    (enough : Slack [lexeme] slack) : expr.operandNesting ≤ slack := by
  cases atom with
  | string => exact Nat.zero_le _
  | property => exact Nat.zero_le _
  | signal => exact Nat.zero_le _
  | noSignal asked =>
      have isSignal : (Expr.signal asked).signal? = some asked :=
        Signals.first?_only asked
      have flat := nesting_not_of_signal isSignal
      exact Nat.le_trans (Nat.le_of_eq flat) (Nat.zero_le slack)
  | anySignal spelling => exact enough spelling List.mem_cons_self

mutual

theorem Operand.operandNesting_le :
    ∀ {lexemes : List Lexeme} {expr : Expr} {nesting slack : Nat},
      Operand lexemes expr nesting → Slack lexemes slack →
        expr.operandNesting ≤ nesting + slack
  | _, _, _, _, .atom atom, enough => by
      rw [Nat.zero_add]
      exact atom.operandNesting_le enough
  | _, .not expr, _, _, .negation _ operand, enough => by
      have inner := operand.operandNesting_le enough.tail
      have outer := nesting_not_le expr
      have bare : (not expr).operandNesting = (not expr).nesting := rfl
      omega
  | _, _, _, _, @Operand.paren _ exprs _ _ _ inner, enough => by
      have bounded := nesting_anyOf_le (inner.nesting_le enough.tail.left)
      have parenthesized := Expr.operandNesting_le (anyOf exprs)
      omega

theorem Conjunction.operandNesting_le :
    ∀ {lexemes : List Lexeme} {exprs : List Expr} {nesting slack : Nat},
      Conjunction lexemes exprs nesting → Slack lexemes slack →
        ∀ expr ∈ exprs, expr.operandNesting ≤ nesting + slack
  | _, _, _, _, .single operand, enough => by
      simpa using operand.operandNesting_le enough
  | _, _, _, _, .adjacent before operand, enough => by
      have bound := operand.operandNesting_le enough.right
      refine forall_mem_concat (fun expr member => ?_) (by omega)
      have earlier := before.operandNesting_le enough.left expr member
      omega
  | _, _, _, _, .joined _ before operand, enough => by
      have bound := operand.operandNesting_le enough.right.tail
      refine forall_mem_concat (fun expr member => ?_) (by omega)
      have earlier := before.operandNesting_le enough.left expr member
      omega

theorem Disjunction.nesting_le :
    ∀ {lexemes : List Lexeme} {exprs : List Expr} {nesting slack : Nat},
      Disjunction lexemes exprs nesting → Slack lexemes slack →
        ∀ expr ∈ exprs, expr.nesting ≤ nesting + slack
  | _, _, _, _, .single conjunction, enough => by
      simpa using nesting_allOf_le (conjunction.operandNesting_le enough)
  | _, _, _, _, .joined _ before conjunction, enough => by
      have bound := nesting_allOf_le <|
        conjunction.operandNesting_le enough.right.tail
      refine forall_mem_concat (fun expr member => ?_) (by omega)
      have earlier := before.nesting_le enough.left expr member
      omega

end

/-- The canonical text of what a row of lexemes spells nests no deeper than the row, but for the slack
that `*` needs. -/
theorem Spells.nesting_le {lexemes : List Lexeme} {expr : Expr}
    {nesting slack : Nat} (spelled : Spells lexemes expr nesting)
    (enough : Slack lexemes slack) : expr.nesting ≤ nesting + slack := by
  obtain ⟨exprs, disjunction, rfl⟩ := spelled
  exact nesting_anyOf_le (disjunction.nesting_le enough)

end Nesting

end RecordQuery.Expr
