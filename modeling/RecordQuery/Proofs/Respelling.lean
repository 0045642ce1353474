import RecordQuery.Proofs.Composition

/-!
# Other spellings of a query

A symbol keeps its spelling for messages only. So rows of lexemes that differ in nothing but the spelling
of symbols spell the same expressions, and where two texts have such rows, one is accepted as an
expression just if the other is.
-/

namespace RecordQuery

namespace Lexeme

/-! ## Rows that differ in spelling -/

section Spelling

/-- A lexeme without the spelling of a symbol. -/
def plain : Lexeme → Lexeme
  | symbol meaning _ => symbol meaning ""
  | lexeme => lexeme

/-- Rows of lexemes differ in nothing but the spelling of symbols. -/
def Respelled (lexemes others : List Lexeme) : Prop :=
  others.map plain = lexemes.map plain

variable {lexeme other : Lexeme} {lexemes others : List Lexeme}

theorem exists_spelling_of_plain {meaning : Symbol} {spelling : String}
    (same : other.plain = (symbol meaning spelling).plain) :
    ∃ respelled, other = symbol meaning respelled := by
  cases other with
  | symbol otherMeaning respelled =>
      cases same
      exact ⟨respelled, rfl⟩
  | _ => cases same

theorem eq_endOfQuery_of_plain (same : other.plain = endOfQuery.plain) :
    other = endOfQuery := by
  cases other <;> cases same
  rfl

theorem Respelled.exists_singleton (respelled : Respelled [lexeme] others) :
    ∃ other, others = [other] ∧ other.plain = lexeme.plain :=
  List.map_eq_singleton_iff.mp respelled

theorem Respelled.exists_append {behind : List Lexeme}
    (respelled : Respelled (lexemes ++ behind) others) :
    ∃ front back, others = front ++ back ∧
      Respelled lexemes front ∧ Respelled behind back := by
  rw [Respelled, List.map_append] at respelled
  exact List.map_eq_append_iff.mp respelled

theorem Respelled.exists_symbol {meaning : Symbol} {spelling : String}
    (respelled : Respelled (symbol meaning spelling :: lexemes) others) :
    ∃ otherSpelling back, others = symbol meaning otherSpelling :: back ∧
      Respelled lexemes back := by
  obtain ⟨other, back, rfl, same, behind⟩ := List.map_eq_cons_iff.mp respelled
  obtain ⟨otherSpelling, rfl⟩ := exists_spelling_of_plain same
  exact ⟨otherSpelling, back, rfl, behind⟩

end Spelling

end Lexeme

namespace Expr

/-! ## What respelled rows spell -/

open Lexeme (Respelled)

theorem IsAtom.respelled {lexeme other : Lexeme} {expr : Expr}
    (atom : IsAtom lexeme expr) (same : other.plain = lexeme.plain) :
    IsAtom other expr := by
  cases atom <;> cases other <;> cases same <;> constructor

-- By induction on the derivation: the rules for symbols ask for no spelling.
mutual

theorem Operand.respelled :
    ∀ {lexemes others : List Lexeme} {expr : Expr} {nesting : Nat},
      Operand lexemes expr nesting → Respelled lexemes others →
        Operand others expr nesting
  | _, _, _, _, .atom atom, respelled => by
      obtain ⟨other, rfl, same⟩ := respelled.exists_singleton
      exact .atom (atom.respelled same)
  | _, _, _, _, .negation _ operand, respelled => by
      obtain ⟨spelling, back, rfl, behind⟩ := respelled.exists_symbol
      exact .negation spelling (operand.respelled behind)
  | _, _, _, _, .paren _ _ inner, respelled => by
      obtain ⟨opening, back, rfl, behind⟩ := respelled.exists_symbol
      obtain ⟨inside, last, rfl, insideSame, lastSame⟩ := behind.exists_append
      obtain ⟨closing, none, rfl, empty⟩ := lastSame.exists_symbol
      obtain rfl := List.map_eq_nil_iff.mp empty
      exact .paren opening closing (inner.respelled insideSame)

theorem Conjunction.respelled :
    ∀ {lexemes others : List Lexeme} {exprs : List Expr} {nesting : Nat},
      Conjunction lexemes exprs nesting → Respelled lexemes others →
        Conjunction others exprs nesting
  | _, _, _, _, .single operand, respelled =>
      .single (operand.respelled respelled)
  | _, _, _, _, .adjacent before operand, respelled => by
      obtain ⟨front, back, rfl, frontSame, backSame⟩ := respelled.exists_append
      exact .adjacent (before.respelled frontSame) (operand.respelled backSame)
  | _, _, _, _, .joined _ before operand, respelled => by
      obtain ⟨front, back, rfl, frontSame, backSame⟩ := respelled.exists_append
      obtain ⟨spelling, behind, rfl, behindSame⟩ := backSame.exists_symbol
      exact .joined spelling (before.respelled frontSame)
        (operand.respelled behindSame)

theorem Disjunction.respelled :
    ∀ {lexemes others : List Lexeme} {exprs : List Expr} {nesting : Nat},
      Disjunction lexemes exprs nesting → Respelled lexemes others →
        Disjunction others exprs nesting
  | _, _, _, _, .single conjunction, respelled =>
      .single (conjunction.respelled respelled)
  | _, _, _, _, .joined _ before conjunction, respelled => by
      obtain ⟨front, back, rfl, frontSame, backSame⟩ := respelled.exists_append
      obtain ⟨spelling, behind, rfl, behindSame⟩ := backSame.exists_symbol
      exact .joined spelling (before.respelled frontSame)
        (conjunction.respelled behindSame)

end

theorem Spells.respelled {lexemes others : List Lexeme} {expr : Expr}
    {nesting : Nat} (spelled : Spells lexemes expr nesting)
    (respelled : Respelled lexemes others) : Spells others expr nesting := by
  obtain ⟨exprs, disjunction, rfl⟩ := spelled
  exact ⟨exprs, disjunction.respelled respelled, rfl⟩

end Expr

/-! ## Texts that are read alike -/

namespace Lexeme

section ReadAlike

/-- Where a text has lexemes, another one has the same, up to the spelling of symbols. -/
def ReadAlike (text other : List Char) : Prop :=
  ∀ lexemes, RowOf text lexemes →
    ∃ others, RowOf other others ∧ Respelled lexemes others

variable {source otherSource rest before text other : List Char}
  {lexeme otherLexeme : Lexeme} {lexemes : List Lexeme}

/-- The row of a text that begins with a source. -/
theorem IsSource.rowOf_iff (written : IsSource source lexeme rest) :
    RowOf (source ++ rest) lexemes ↔
      ∃ others, lexemes = lexeme :: others ∧ RowOf rest others := by
  constructor
  · intro row
    obtain ⟨tokens, read, rfl⟩ := row 0
    rw [written.tokens_eq] at read
    cases behind :
        (Cursor.mk (0 + Text.byteLength source) rest).tokens with
    | error error =>
        rw [behind] at read
        cases read
    | ok others =>
        rw [behind] at read
        cases read
        exact ⟨_, rfl, rowOf_of_tokens behind⟩
  · rintro ⟨others, rfl, row⟩
    exact rowOf_source written row

/-- Texts that begin with sources of the same lexeme, up to its spelling, are read alike. -/
theorem readAlike_of_sources (written : IsSource source lexeme rest)
    (otherWritten : IsSource otherSource otherLexeme rest)
    (same : otherLexeme.plain = lexeme.plain) :
    ReadAlike (source ++ rest) (otherSource ++ rest) := by
  intro lexemes row
  obtain ⟨behind, rfl, behindRow⟩ := written.rowOf_iff.mp row
  refine ⟨otherLexeme :: behind,
    otherWritten.rowOf_iff.mpr ⟨behind, rfl, behindRow⟩, ?_⟩
  rw [Respelled, List.map_cons, same, List.map_cons]

/-- Texts that are read alike are so behind a text that they join. -/
theorem ReadAlike.append (alike : ReadAlike text other)
    (row : RowOf before (lexemes ++ [.endOfQuery]))
    (lets : LetsBegin before) :
    ReadAlike (before ++ text) (before ++ other) := by
  intro whole wholeRow
  obtain ⟨behind, rfl, behindRow⟩ :=
    exists_row_of_append row (Or.inr lets) wholeRow
  obtain ⟨others, othersRow, respelled⟩ := alike behind behindRow
  refine ⟨lexemes ++ others, rowOf_append row (Or.inr lets) othersRow, ?_⟩
  rw [Respelled, List.map_append, respelled, List.map_append]

end ReadAlike

end Lexeme

namespace Expr

/-- What is accepted as an expression is accepted as the same one in another spelling. -/
theorem ofText_of_readAlike {query other : String} {expr : Expr}
    (alike : Lexeme.ReadAlike query.toList other.toList)
    (accepted : ofText query = .ok expr) : ofText other = .ok expr := by
  obtain ⟨tokens, nesting, read, within, spelled⟩ := spells_of_ofText accepted
  obtain ⟨before, rfl, noEnd⟩ := Token.exists_append_end read
  rw [takeWhile_not_isEnd noEnd] at spelled
  have row := Lexeme.rowOf_ofText read
  rw [List.map_append] at row
  obtain ⟨others, otherRow, respelled⟩ := alike _ row
  obtain ⟨front, back, rfl, frontSame, backSame⟩ := respelled.exists_append
  obtain ⟨last, rfl, lastSame⟩ := backSame.exists_singleton
  obtain rfl := Lexeme.eq_endOfQuery_of_plain lastSame
  have again := ofText_of_spells_of_le otherRow
    (spelled.respelled frontSame) within
  rw [String.ofList_toList] at again
  exact again

end Expr

end RecordQuery
