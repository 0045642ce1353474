import RecordQuery.Proofs.Derivations
import RecordQuery.Proofs.Flattening
import RecordQuery.Proofs.Phrases

/-!
# Reading canonical text

The canonical text of a well-formed expression is a phrase, and its lexemes spell the flattened
expression with exactly the nesting of the expression. This holds at each of the three places where an
operand can stand: next to OR, next to AND and behind a negation.
-/

namespace RecordQuery.Expr

open Lexeme (standsAlone IsSource Keyword Opens Phrase)
open Lexeme.Phrase (Guarded)

/-- The texts of an expression are phrases whose lexemes spell it, wherever it stands as an operand, and
`!` negates it unless it is a signal. -/
structure Spelled (expr : Expr) : Prop where
  disjunct : ∃ lexemes, Phrase expr.write lexemes ∧
    Disjunction lexemes expr.flatten.disjuncts expr.nesting
  conjunct : ∃ lexemes, Phrase expr.writeConjunct lexemes ∧
    Conjunction lexemes expr.flatten.conjuncts expr.conjunctNesting
  operand : ∃ lexemes, Phrase expr.writeOperand lexemes ∧
    Operand lexemes expr.flatten expr.operandNesting
  guarded : expr.signal? = none → Guarded expr.writeOperand

/-! ## Atoms -/

section Atoms

theorem opens_write_quoted (value : List Char) :
    Opens (Quoted.write value) :=
  ⟨'"', _, rfl, by decide, by decide⟩

theorem phrase_string (value : String) (caseSensitive : Bool) :
    Phrase (string value caseSensitive).write
      [.string value caseSensitive] := by
  have closed := Quoted.read_write_append value.toList []
  cases caseSensitive with
  | false =>
      refine .single (opens_write_quoted _) fun rest _ => ?_
      have written := @IsSource.string _ _ rest closed
      rw [String.ofList_toList] at written
      exact written
  | true =>
      refine .single ⟨'c', _, rfl, by decide, by decide⟩ fun rest _ => ?_
      have written := @IsSource.sensitiveString _ _ rest closed
      rw [String.ofList_toList] at written
      exact written

theorem phrase_signal (asked : Signal) :
    Phrase (signal asked).write
      [.symbol (.signal asked) (String.ofList asked.mark)] := by
  have text : (signal asked).write = asked.mark := by
    cases asked <;> rfl
  rw [text]
  have opens : Opens asked.mark := by
    cases asked <;> exact ⟨_, _, rfl, by decide, by decide⟩
  exact .single opens fun _ _ => .mark asked

theorem phrase_absence (asked : Signal) :
    Phrase asked.absenceMark
      [.symbol (.noSignal asked) (String.ofList asked.absenceMark)] :=
  .single ⟨'!', _, rfl, by decide, by decide⟩
    fun _ alone => .absenceMark asked alone

theorem isSource_writeValue {name : List Char} {key : PropertyKey}
    (named : PropertyKey.ofWord? (String.ofList name) = some key)
    (value : List Char) {rest : List Char} (alone : standsAlone rest = true) :
    IsSource (name ++ ':' :: writeValue value)
      (.property (some key) (String.ofList value)) rest := by
  rw [writeValue]
  by_cases bare : isBareValue value = true
  · rw [if_pos bare]
    simp only [isBareValue, Bool.and_eq_true, List.all_eq_true] at bare
    obtain ⟨nonempty, parts⟩ := bare
    have word : Lexeme.IsWord value := ⟨by simpa using nonempty, parts⟩
    exact .property named word (Lexeme.endsWord_of_standsAlone alone)
  · rw [if_neg bare]
    exact .quotedProperty named (Quoted.read_write_append value [])

theorem phrase_property (key : PropertyKey) (value : String) :
    Phrase (property key value).write [.property (some key) value] := by
  have text :
      (property key value).write =
        key.word.toList ++ ':' :: writeValue value.toList := rfl
  rw [text]
  have opens : Opens (key.word.toList ++ ':' :: writeValue value.toList) := by
    cases key <;> exact ⟨_, _, rfl, by decide, by decide⟩
  have named : PropertyKey.ofWord? (String.ofList key.word.toList) = some key := by
    cases key <;> decide
  refine .single opens fun rest alone => ?_
  have written := isSource_writeValue named value.toList alone
  rw [String.ofList_toList] at written
  exact written

end Atoms

/-! ## Operands of each kind -/

section Kinds

theorem guarded_of_begins {c : Char} {tail : List Char}
    (noSign : c ≠ '!' ∧ c ≠ '@' ∧ c ≠ '$') : Guarded (c :: tail) := by
  intro first others equality sign
  obtain ⟨notBang, notAt, notDollar⟩ := noSign
  cases equality
  rcases sign with bang | at' | dollar
  · exact absurd bang notBang
  · exact absurd at' notAt
  · exact absurd dollar notDollar

theorem guarded_parenthesize (text : List Char) :
    Guarded (parenthesize text) :=
  guarded_of_begins (by decide)

theorem guarded_string (value : String) (caseSensitive : Bool) :
    Guarded (string value caseSensitive).write := by
  cases caseSensitive <;> exact guarded_of_begins (by decide)

theorem guarded_property (key : PropertyKey) (value : String) :
    Guarded (property key value).write := by
  cases key <;> exact guarded_of_begins (by decide)

/-- An expression that needs parentheses nowhere. -/
theorem spelled_of_operand {expr : Expr} {lexemes : List Lexeme}
    (simple : expr.isCompound = false)
    (phrase : Phrase expr.write lexemes)
    (operand : Operand lexemes expr.flatten expr.nesting)
    (guarded : expr.signal? = none → Guarded expr.write) :
    Spelled expr := by
  have notOr : expr.isOr = false := by
    by_cases isOr : expr.isOr = true
    · rw [isCompound_of_isOr isOr] at simple
      cases simple
    · exact eq_false_of_ne_true isOr
  have flatSimple : expr.flatten.isCompound = false :=
    (isCompound_flatten expr).trans simple
  have conjuncts := conjuncts_of_not_isCompound flatSimple
  have disjuncts := disjuncts_of_not_isCompound flatSimple
  constructor
  · rw [disjuncts]
    exact ⟨lexemes, phrase, .single (.single operand)⟩
  · rw [writeConjunct, conjunctNesting, notOr, conjuncts]
    exact ⟨lexemes, phrase, .single operand⟩
  · rw [writeOperand, operandNesting, simple]
    exact ⟨lexemes, phrase, operand⟩
  · rw [writeOperand, simple]
    exact guarded

/-- A disjunction stands in parentheses next to AND and behind a negation. -/
theorem spelled_or {operands : List Expr} {lexemes : List Lexeme}
    (wellFormed : (or operands).WellFormed)
    (phrase : Phrase (or operands).write lexemes)
    (disjunction : Disjunction lexemes (flattenDisjuncts operands)
      (or operands).nesting) :
    Spelled (or operands) := by
  have whole := anyOf_disjuncts (wellFormed_flatten wellFormed)
  have grouped : ∃ lexemes,
      Phrase (parenthesize (or operands).write) lexemes ∧
        Operand lexemes (or operands).flatten
          ((or operands).nesting + 1) := by
    refine ⟨_, phrase.parenthesize, ?_⟩
    rw [← whole]
    exact .paren _ _ disjunction
  obtain ⟨groupedLexemes, groupedPhrase, operand⟩ := grouped
  exact
    { disjunct := ⟨lexemes, phrase, disjunction⟩
      conjunct := ⟨groupedLexemes, groupedPhrase, .single operand⟩
      operand := ⟨groupedLexemes, groupedPhrase, operand⟩
      guarded := fun _ => guarded_parenthesize _ }

/-- A conjunction stands in parentheses only behind a negation. -/
theorem spelled_and {operands : List Expr} {lexemes : List Lexeme}
    (wellFormed : (and operands).WellFormed)
    (phrase : Phrase (and operands).write lexemes)
    (conjunction : Conjunction lexemes (flattenConjuncts operands)
      (and operands).nesting) :
    Spelled (and operands) := by
  have whole := allOf_conjuncts (wellFormed_flatten wellFormed)
  have disjunction :
      Disjunction lexemes [(and operands).flatten]
        (and operands).nesting := by
    rw [← whole]
    exact .single conjunction
  exact
    { disjunct := ⟨lexemes, phrase, disjunction⟩
      conjunct := ⟨lexemes, phrase, conjunction⟩
      operand := ⟨_, phrase.parenthesize, .paren _ _ disjunction⟩
      guarded := fun _ => guarded_parenthesize _ }

end Kinds

/-! ## Joined operands -/

section Joined

variable {word : List Char} {meaning : Symbol}
  {Row : List Lexeme → List Expr → Nat → Prop}
  {text : Expr → List Char} {parts : Expr → List Expr} {depth : Expr → Nat}

/-- If rows of a kind can be joined by a word, so can the phrases of operands that spell such rows. -/
theorem phrase_intercalate (keyword : Keyword word meaning)
    (append : ∀ {lexemes others : List Lexeme} {exprs otherExprs : List Expr}
      {nesting nesting' : Nat}, Row lexemes exprs nesting →
        Row others otherExprs nesting' →
          Row (lexemes ++ .symbol meaning (String.ofList word) :: others)
            (exprs ++ otherExprs) (max nesting nesting')) :
    ∀ {operands : List Expr}, operands ≠ [] →
      (∀ operand ∈ operands, ∃ lexemes,
        Phrase (text operand) lexemes ∧
          Row lexemes (parts operand) (depth operand)) →
        ∃ lexemes,
          Phrase ((' ' :: (word ++ [' '])).intercalate (operands.map text))
            lexemes ∧
          Row lexemes (operands.flatMap parts)
            ((operands.map depth).foldr max 0)
  | [], nonempty, _ => absurd rfl nonempty
  | [operand], _, spelled => by
      obtain ⟨lexemes, phrase, row⟩ := spelled operand List.mem_cons_self
      refine ⟨lexemes, ?_, ?_⟩
      · simpa using phrase
      · simpa using row
  | first :: second :: rest, _, spelled => by
      obtain ⟨lexemes, phrase, row⟩ := spelled first List.mem_cons_self
      obtain ⟨others, otherPhrase, otherRow⟩ :=
        phrase_intercalate keyword append (List.cons_ne_nil second rest)
          fun operand member =>
            spelled operand (List.mem_cons_of_mem first member)
      have joined := phrase.joined keyword otherPhrase
      rw [List.map_cons, List.map_cons, List.intercalate_cons_cons]
      exact ⟨_, joined, append row otherRow⟩

end Joined

/-! ## Negations -/

section Negations

/-- The absence of a signal has a mark of its own. -/
theorem spelled_not_signal (asked : Signal) :
    Spelled (not (signal asked)) := by
  have isSignal : (signal asked).signal? = some asked :=
    Signals.first?_only asked
  have text : (not (signal asked)).write = asked.absenceMark := by
    rw [write, isSignal]
  have flat := nesting_not_of_signal isSignal
  refine spelled_of_operand rfl (text ▸ phrase_absence asked) ?_ fun _ => ?_
  · rw [flat]
    exact .atom (.noSignal asked _)
  · rw [text]
    intro c tail equality _
    cases equality
    exact ⟨asked.sign, [], rfl, by cases asked <;> decide,
      by cases asked <;> decide⟩

theorem spelled_not {operand : Expr} (spelled : Spelled operand)
    (noSignal : operand.signal? = none) : Spelled (not operand) := by
  have text :
      (not operand).write = writeNegation operand.writeOperand := by
    rw [write, noSignal, writeOperand]
  obtain ⟨lexemes, phrase, derivation⟩ := spelled.operand
  obtain ⟨spelling, negated⟩ := phrase.negation (spelled.guarded noSignal)
  refine spelled_of_operand rfl (text ▸ negated) ?_ fun _ => ?_
  · rw [nesting_not noSignal]
    exact .negation spelling derivation
  -- A negation of the negation begins with NOT, or with a sign that does not stand alone.
  · rw [text, writeNegation]
    by_cases double : ['!', '!'].isPrefixOf operand.writeOperand = true
    · rw [if_pos double]
      exact guarded_of_begins (by decide)
    · rw [if_neg double]
      intro c tail equality _
      cases equality
      exact phrase.opens

end Negations

theorem spelled_of_wellFormed {expr : Expr} :
    expr.WellFormed → Spelled expr := by
  induction expr using induction with
  | text value caseSensitive signals =>
      intro wellFormed
      rcases eq_string_or_eq_signal wellFormed with isString | ⟨asked, isSignal⟩
      · rw [isString]
        exact spelled_of_operand rfl (phrase_string value caseSensitive)
          (.atom (.string value caseSensitive))
          fun _ => guarded_string value caseSensitive
      · rw [isSignal]
        have signalled : (signal asked).signal? = some asked :=
          Signals.first?_only asked
        exact spelled_of_operand rfl (phrase_signal asked)
          (.atom (.signal asked _))
          fun noSignal => nomatch signalled.symm.trans noSignal
  | property key value =>
      intro _
      exact spelled_of_operand rfl (phrase_property key value)
        (.atom (.property key value))
        fun _ => guarded_property key value
  | and operands inductionHypothesis =>
      intro wellFormed
      obtain ⟨count, all⟩ := wellFormed_and_iff.mp wellFormed
      have nonempty : operands ≠ [] := by
        rintro rfl
        cases count
      obtain ⟨lexemes, phrase, conjunction⟩ :=
        phrase_intercalate .and (Conjunction.append _) nonempty
          fun operand member =>
            (inductionHypothesis operand member (all operand member)).conjunct
      rw [← writeConjuncts_eq_map] at phrase
      rw [← flattenConjuncts_eq_flatMap, ← nestingOfConjuncts_eq_foldr]
        at conjunction
      exact spelled_and wellFormed phrase conjunction
  | or operands inductionHypothesis =>
      intro wellFormed
      obtain ⟨count, all⟩ := wellFormed_or_iff.mp wellFormed
      have nonempty : operands ≠ [] := by
        rintro rfl
        cases count
      obtain ⟨lexemes, phrase, disjunction⟩ :=
        phrase_intercalate .or (Disjunction.append _) nonempty
          fun operand member =>
            (inductionHypothesis operand member (all operand member)).disjunct
      rw [← writeDisjuncts_eq_map] at phrase
      rw [← flattenDisjuncts_eq_flatMap, ← nestingOfDisjuncts_eq_foldr]
        at disjunction
      exact spelled_or wellFormed phrase disjunction
  | not operand inductionHypothesis =>
      intro wellFormed
      have operandWellFormed : operand.WellFormed := wellFormed
      cases known : operand.signal? with
      | none =>
          exact spelled_not (inductionHypothesis operandWellFormed) known
      | some asked =>
          rw [eq_signal_of_signal? operandWellFormed known]
          exact spelled_not_signal asked

end RecordQuery.Expr
