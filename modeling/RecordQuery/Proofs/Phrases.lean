import RecordQuery.Expr.Canonical
import RecordQuery.Proofs.Sources

/-!
# Phrases

A phrase is a text that is read as the same lexemes wherever nothing, a blank or a closing parenthesis
follows it. Phrases are put together from phrases by parentheses, by the words AND and OR, and by
negation.
-/

namespace RecordQuery.Lexeme

/-! ## Connectives -/

section Connectives

variable {word rest : List Char}

theorem isAsciiLetter_of_connective
    (joins : Text.lowerAscii (String.ofList word) ∈ connectives) :
    ∀ c ∈ word, Text.isAsciiLetter c = true := by
  have letters : ∀ connective ∈ connectives,
      connective.toList.all Text.isAsciiLetter = true := by
    decide
  exact Text.isAsciiLetter_of_lowerAscii (letters _ joins)

theorem ne_nil_of_connective
    (joins : Text.lowerAscii (String.ofList word) ∈ connectives) :
    word ≠ [] := by
  rintro rfl
  exact absurd joins (by decide)

/-- A connective is a bare word, but in front of a colon. -/
theorem isBareWord_of_connective
    (joins : Text.lowerAscii (String.ofList word) ∈ connectives)
    (ends : EndsWord rest) (noColon : ∀ tail, rest ≠ ':' :: tail) :
    IsBareWord word rest := by
  have letters := isAsciiLetter_of_connective joins
  refine ⟨?_, fun c member => by simp [isWordPart, letters c member], ends,
    noColon, ?_⟩
  · obtain ⟨c, tail, rfl⟩ :=
      List.exists_cons_of_ne_nil (ne_nil_of_connective joins)
    exact ⟨c, tail, rfl, by simp [isWordStart, letters c List.mem_cons_self]⟩
  · rintro rfl
    exact absurd joins (by decide)

end Connectives

/-! ## Rows of a text -/

section RowOf

/-- The lexemes of a text, wherever in a query it stands. -/
def RowOf (text : List Char) (lexemes : List Lexeme) : Prop :=
  ∀ position, ∃ tokens,
    (Cursor.mk position text).tokens = .ok tokens ∧
      tokens.map Token.lexeme = lexemes

theorem rowOf_nil : RowOf [] [.endOfQuery] :=
  fun position => ⟨_, Cursor.tokens_nil position, rfl⟩

theorem rowOf_blank {c : Char} {rest : List Char} {lexemes : List Lexeme}
    (blank : Text.isBlank c = true) (row : RowOf rest lexemes) :
    RowOf (c :: rest) lexemes := by
  intro position
  rw [Cursor.tokens_blank blank]
  exact row (position + c.utf8Size)

theorem rowOf_source {source rest : List Char} {lexeme : Lexeme}
    {lexemes : List Lexeme} (written : IsSource source lexeme rest)
    (row : RowOf rest lexemes) : RowOf (source ++ rest) (lexeme :: lexemes) := by
  intro position
  obtain ⟨tokens, read, rfl⟩ := row (position + Text.byteLength source)
  rw [written.tokens_eq, read]
  exact ⟨_, rfl, rfl⟩

/-- The words of canonical text and what they stand for. -/
inductive Keyword : List Char → Symbol → Prop where
  | and : Keyword ['A', 'N', 'D'] .and
  | or : Keyword ['O', 'R'] .or
  | not : Keyword ['N', 'O', 'T'] .not

theorem Keyword.isSource {word : List Char} {meaning : Symbol}
    (keyword : Keyword word meaning) (rest : List Char) :
    IsSource word (.symbol meaning (String.ofList word)) (' ' :: rest) := by
  have joins : Text.lowerAscii (String.ofList word) ∈ connectives := by
    cases keyword <;> decide
  have bare : IsBareWord word (' ' :: rest) :=
    isBareWord_of_connective joins (endsWord_of_standsAlone rfl) fun _ => by simp
  have spelled :
      ofWord (String.ofList word) =
        .symbol meaning (String.ofList word) := by
    cases keyword <;> decide
  rw [← spelled]
  exact .word bare

/-- A word and the blank behind it. -/
theorem rowOf_keyword {word : List Char} {meaning : Symbol}
    {rest : List Char} {lexemes : List Lexeme}
    (keyword : Keyword word meaning) (row : RowOf rest lexemes) :
    RowOf (word ++ ' ' :: rest)
      (.symbol meaning (String.ofList word) :: lexemes) :=
  rowOf_source (keyword.isSource rest) (rowOf_blank rfl row)

/-- Parentheses around a text that is read in front of a boundary. -/
theorem rowOf_parenthesize {text rest : List Char}
    {lexemes others : List Lexeme}
    (reads : ∀ {rest : List Char} {others : List Lexeme},
      standsAlone rest = true → RowOf rest others →
        RowOf (text ++ rest) (lexemes ++ others))
    (row : RowOf rest others) :
    RowOf (Expr.parenthesize text ++ rest)
      (.symbol .openParen (String.ofList ['(']) ::
        (lexemes ++
          .symbol .closeParen (String.ofList [')']) :: others)) := by
  have closing :
      RowOf ([')'] ++ rest)
        (.symbol .closeParen (String.ofList [')']) :: others) :=
    rowOf_source .closeParen row
  have inside := reads rfl closing
  have whole :
      RowOf (['('] ++ (text ++ ([')'] ++ rest)))
        (.symbol .openParen (String.ofList ['(']) ::
          (lexemes ++
            .symbol .closeParen (String.ofList [')']) :: others)) :=
    rowOf_source .openParen inside
  simpa [Expr.parenthesize] using whole

end RowOf

/-! ## Phrases -/

/-- A text begins with a character that is neither blank nor a closing parenthesis. -/
def Opens (text : List Char) : Prop :=
  ∃ c tail, text = c :: tail ∧ Text.isBlank c = false ∧ c ≠ ')'

theorem Opens.not_standsAlone {text : List Char} (opens : Opens text)
    (rest : List Char) : standsAlone (text ++ rest) = false := by
  obtain ⟨c, tail, rfl, notBlank, notClosing⟩ := opens
  simp [standsAlone, notBlank, notClosing]

/-- A text that is read as certain lexemes in front of whatever lets a mark stand alone. -/
structure Phrase (text : List Char) (lexemes : List Lexeme) : Prop where
  opens : Opens text
  reads : ∀ (rest : List Char) (others : List Lexeme),
    standsAlone rest = true → RowOf rest others →
      RowOf (text ++ rest) (lexemes ++ others)

namespace Phrase

/-- A text that is the source of a single lexeme. -/
theorem single {text : List Char} {lexeme : Lexeme} (opens : Opens text)
    (written : ∀ rest, standsAlone rest = true → IsSource text lexeme rest) :
    Phrase text [lexeme] :=
  ⟨opens, fun rest _ alone row => rowOf_source (written rest alone) row⟩

theorem parenthesize {text : List Char} {lexemes : List Lexeme}
    (phrase : Phrase text lexemes) :
    Phrase (Expr.parenthesize text)
      (.symbol .openParen (String.ofList ['(']) ::
        (lexemes ++ [.symbol .closeParen (String.ofList [')'])])) := by
  refine ⟨⟨'(', _, rfl, by decide, by decide⟩, fun rest others _ row => ?_⟩
  have whole := rowOf_parenthesize (phrase.reads _ _) row
  simpa using whole

/-- Two phrases with a word between them. -/
theorem joined {word left right : List Char} {meaning : Symbol}
    {lexemes others : List Lexeme} (first : Phrase left lexemes)
    (keyword : Keyword word meaning) (second : Phrase right others) :
    Phrase (left ++ (' ' :: (word ++ [' '])) ++ right)
      (lexemes ++ .symbol meaning (String.ofList word) :: others) := by
  constructor
  · obtain ⟨c, tail, rfl, notBlank, notClosing⟩ := first.opens
    exact ⟨c, _, rfl, notBlank, notClosing⟩
  · intro rest following alone row
    have behind := rowOf_keyword keyword (second.reads rest following alone row)
    have whole := first.reads _ _ rfl (rowOf_blank (c := ' ') rfl behind)
    simpa using whole

/-- A text behind which `!` is a negation: a sign of a signal at its head does not stand alone. -/
def Guarded (text : List Char) : Prop :=
  ∀ c tail, text = c :: tail → c = '!' ∨ c = '@' ∨ c = '$' → Opens tail

theorem Guarded.negates {text : List Char} (guarded : Guarded text)
    (opens : Opens text) (noDouble : ¬ ['!', '!'].isPrefixOf text = true)
    (rest : List Char) : Negates (text ++ rest) := by
  have notAlone := opens.not_standsAlone rest
  obtain ⟨c, tail, rfl, _⟩ := opens
  refine ⟨notAlone, fun asked others begins => ?_, fun others begins => ?_⟩
  · obtain ⟨rfl, rfl⟩ := List.cons.inj begins
    have sign : asked.sign = '!' ∨ asked.sign = '@' ∨ asked.sign = '$' := by
      cases asked <;> decide
    exact (guarded asked.sign tail rfl sign).not_standsAlone rest
  · obtain ⟨rfl, second⟩ := List.cons.inj begins
    obtain ⟨d, behind, rfl, _⟩ := guarded '!' tail rfl (Or.inl rfl)
    obtain ⟨rfl, _⟩ := List.cons.inj second
    exact noDouble rfl

theorem negation {text : List Char} {lexemes : List Lexeme}
    (phrase : Phrase text lexemes) (guarded : Guarded text) :
    ∃ spelling,
      Phrase (Expr.writeNegation text) (.symbol .not spelling :: lexemes) := by
  by_cases double : ['!', '!'].isPrefixOf text = true
  · refine ⟨String.ofList ['N', 'O', 'T'], ?_⟩
    rw [Expr.writeNegation, if_pos double]
    refine ⟨⟨'N', _, rfl, by decide, by decide⟩, ?_⟩
    intro rest others alone row
    exact rowOf_keyword .not (phrase.reads rest others alone row)
  · refine ⟨"!", ?_⟩
    rw [Expr.writeNegation, if_neg double]
    refine ⟨⟨'!', _, rfl, by decide, by decide⟩, ?_⟩
    intro rest others alone row
    have negates := guarded.negates phrase.opens double rest
    have whole : RowOf (['!'] ++ (text ++ rest))
        (.symbol .not "!" :: (lexemes ++ others)) :=
      rowOf_source (.negation negates) (phrase.reads rest others alone row)
    exact whole

end Phrase

end RecordQuery.Lexeme
