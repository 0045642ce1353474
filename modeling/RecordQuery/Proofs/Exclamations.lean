import RecordQuery.Proofs.Sources

/-!
# Rows of exclamation marks

How a row of exclamation marks is read depends on its length and on up to two characters behind it. Three
of them are always a mark. Of the one or two that remain, those that stand alone are a mark together; the
last one is a mark with the sign of a signal behind it, if this sign stands alone; otherwise each is a
negation.
-/

namespace RecordQuery

/-! ## Symbols next to each other -/

/-- A symbol as it is spelled. -/
structure Mark where
  meaning : Symbol
  spelling : List Char
  deriving DecidableEq, Repr

namespace Mark

/-- The mark of an error suffix at its full length. -/
def triple : Mark := ⟨.signal .errorSuffix, Signal.errorSuffix.mark⟩

/-- The mark of an error suffix that stands alone. -/
def single : Mark := ⟨.signal .errorSuffix, ['!']⟩

def absence (asked : Signal) : Mark := ⟨.noSignal asked, asked.absenceMark⟩

def negation : Mark := ⟨.not, ['!']⟩

/-- What fewer than three exclamation marks are where they stand alone. -/
def alone : (count : Nat) → List Mark
  | 1 => [single]
  | 2 => [absence .errorSuffix]
  | _ => []

def lexeme (mark : Mark) : Lexeme :=
  .symbol mark.meaning (String.ofList mark.spelling)

/-- The tokens of marks that stand next to each other from a byte position on. -/
def tokens (position : Nat) : List Mark → List Token
  | [] => []
  | mark :: others =>
      ⟨mark.lexeme, position⟩ ::
        tokens (position + Text.byteLength mark.spelling) others

end Mark

namespace Lexeme

/-- A text begins with marks, and it is read as these marks and then as what the rest is read as. -/
structure ReadsOn (marks : List Mark) (text rest : List Char) : Prop where
  text_eq : text = marks.flatMap Mark.spelling ++ rest
  tokens_eq : ∀ position, (Cursor.mk position text).tokens =
    (Cursor.mk (position + Text.byteLength (marks.flatMap Mark.spelling))
      rest).tokens.map (Mark.tokens position marks ++ ·)

section ReadsOn

variable {mark : Mark} {marks : List Mark} {text middle rest : List Char}

theorem ReadsOn.nil (text : List Char) : ReadsOn [] text text := by
  refine ⟨rfl, fun position => ?_⟩
  change _ = (Cursor.mk (position + 0) text).tokens.map _
  rw [Nat.add_zero]
  cases (Cursor.mk position text).tokens <;> rfl

/-- A mark in front of a text. -/
theorem ReadsOn.cons (written : IsSource mark.spelling mark.lexeme middle)
    (behind : ReadsOn marks middle rest) :
    ReadsOn (mark :: marks) (mark.spelling ++ middle) rest := by
  obtain ⟨textEq, tokensEq⟩ := behind
  constructor
  · rw [List.flatMap_cons, List.append_assoc, ← textEq]
  · intro position
    rw [written.tokens_eq, tokensEq, List.flatMap_cons, Text.byteLength_append,
      ← Nat.add_assoc]
    cases (Cursor.mk _ rest).tokens <;> rfl

/-- Three exclamation marks are a mark, whatever follows. -/
theorem ReadsOn.triples (behind : ReadsOn marks text rest) (count : Nat) :
    ReadsOn (List.replicate count .triple ++ marks)
      (List.replicate (3 * count) '!' ++ text) rest := by
  induction count with
  | zero => exact behind
  | succ count inductionHypothesis =>
      have written : IsSource Mark.triple.spelling Mark.triple.lexeme
          (List.replicate (3 * count) '!' ++ text) := .mark .errorSuffix
      exact .cons written inductionHypothesis

end ReadsOn

/-! ## Fewer than three marks -/

section Remaining

variable {rest : List Char}

theorem readsOn_alone (alone : standsAlone rest = true) {count : Nat}
    (few : count < 3) :
    ReadsOn (Mark.alone count) (List.replicate count '!' ++ rest) rest := by
  match count with
  | 0 => exact .nil rest
  | 1 =>
      have written : IsSource Mark.single.spelling Mark.single.lexeme rest :=
        .sign .errorSuffix alone
      exact .cons written (.nil rest)
  | 2 =>
      have written : IsSource (Mark.absence .errorSuffix).spelling
          (Mark.absence .errorSuffix).lexeme rest :=
        .absenceMark .errorSuffix alone
      exact .cons written (.nil rest)

/-- An exclamation mark in front of another one negates it, if they do not stand alone together. -/
theorem negates_exclamation (noBang : ∀ tail, rest ≠ '!' :: tail)
    (notAlone : standsAlone rest = false) : Negates ('!' :: rest) := by
  refine ⟨rfl, ?_, ?_⟩
  · intro asked tail equality
    obtain rfl := (List.cons.inj equality).2
    exact notAlone
  · intro tail equality
    exact noBang tail (List.cons.inj equality).2

theorem readsOn_negations {marks : List Mark} {behind : List Char}
    (noBang : ∀ tail, rest ≠ '!' :: tail) (notAlone : standsAlone rest = false)
    {count : Nat} (few : count < 2)
    (last : ReadsOn marks ('!' :: rest) behind) :
    ReadsOn (List.replicate count .negation ++ marks)
      (List.replicate (count + 1) '!' ++ rest) behind := by
  match count with
  | 0 => exact last
  | 1 =>
      have written : IsSource Mark.negation.spelling Mark.negation.lexeme
          ('!' :: rest) := .negation (negates_exclamation noBang notAlone)
      exact .cons written last

theorem standsAlone_sign (asked : Signal) (tail : List Char) :
    standsAlone (asked.sign :: tail) = false := by
  cases asked <;> rfl

end Remaining

/-! ## Rows of any length -/

section Rows

/-- A row of exclamation marks in front of something else: the triples, and then one or two marks that
stand alone, or negations of which the last one can be part of the mark of an absent signal. -/
theorem readsOn_exclamations (count : Nat) {rest : List Char}
    (noBang : ∀ tail, rest ≠ '!' :: tail) :
    (standsAlone rest = true →
      ReadsOn (List.replicate (count / 3) .triple ++ Mark.alone (count % 3))
        (List.replicate count '!' ++ rest) rest) ∧
    (∀ (asked : Signal) (tail : List Char), rest = asked.sign :: tail →
      standsAlone tail = true → count % 3 ≠ 0 →
        ReadsOn
          (List.replicate (count / 3) .triple ++
            (List.replicate (count % 3 - 1) .negation ++ [.absence asked]))
          (List.replicate count '!' ++ rest) tail) ∧
    (standsAlone rest = false →
      (count % 3 = 0 ∨ ∀ (asked : Signal) (tail : List Char),
        rest = asked.sign :: tail → standsAlone tail = false) →
        ReadsOn
          (List.replicate (count / 3) .triple ++
            List.replicate (count % 3) .negation)
          (List.replicate count '!' ++ rest) rest) := by
  have few : count % 3 < 3 := Nat.mod_lt count (by decide)
  have row : List.replicate count '!' ++ rest =
      List.replicate (3 * (count / 3)) '!' ++
        (List.replicate (count % 3) '!' ++ rest) := by
    rw [← List.append_assoc, List.replicate_append_replicate, Nat.div_add_mod]
  rw [row]
  refine ⟨fun alone => ?_, ?_, fun notAlone noAbsence => ?_⟩
  · exact (readsOn_alone alone few).triples _
  · rintro asked tail rfl alone remains
    obtain ⟨before, same⟩ := Nat.exists_eq_succ_of_ne_zero remains
    have written : IsSource (Mark.absence asked).spelling
        (Mark.absence asked).lexeme tail := .absenceMark asked alone
    have last : ReadsOn [.absence asked] ('!' :: asked.sign :: tail) tail :=
      .cons written (.nil tail)
    rw [same] at few ⊢
    exact (readsOn_negations noBang (standsAlone_sign asked tail)
      (Nat.lt_of_succ_lt_succ few) last).triples _
  · by_cases remains : count % 3 = 0
    · rw [remains]
      exact (ReadsOn.nil rest).triples _
    · obtain ⟨before, same⟩ := Nat.exists_eq_succ_of_ne_zero remains
      have negates : Negates rest := by
        refine ⟨notAlone, noAbsence.resolve_left remains, ?_⟩
        exact fun tail => noBang ('!' :: tail)
      have written : IsSource Mark.negation.spelling Mark.negation.lexeme rest :=
        .negation negates
      have last : ReadsOn [.negation] ('!' :: rest) rest :=
        .cons written (.nil rest)
      rw [same] at few ⊢
      rw [List.replicate_succ']
      exact (readsOn_negations noBang notAlone (Nat.lt_of_succ_lt_succ few)
        last).triples _

/-- Five exclamation marks in front of a sign that stands alone. -/
theorem readsOn_exclamations_agent :
    (∀ tail, "@ x".toList ≠ '!' :: tail) ∧ standsAlone " x".toList = true ∧
    5 % 3 ≠ 0 ∧
    ReadsOn [.triple, .negation, .absence .runningAgent] "!!!!!@ x".toList
      " x".toList := by
  have noBang : ∀ tail, "@ x".toList ≠ '!' :: tail := by simp
  exact ⟨noBang, rfl, by decide,
    (readsOn_exclamations 5 noBang).2.1 .runningAgent " x".toList rfl rfl
      (by decide)⟩

end Rows

end Lexeme

end RecordQuery
