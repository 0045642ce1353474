import RecordQuery.Proofs.Respelling

/-!
# Shorthands

A shorthand can take the place of its long form, and the other way round, in any query in which no lexeme
goes on around it: both are sources of the same lexeme, up to the spelling of a connective. What stands
before and behind, and how deep it nests, makes no difference.
-/

namespace RecordQuery

namespace Lexeme

/-! ## Pairs of texts -/

/-- The letters of the status shorthands, in lower case, with their statuses. -/
def statusWords : List (Char × String) :=
  [('d', "DRAFTED"), ('m', "MAILED"), ('r', "REVERTED"), ('s', "SUBMITTED"), ('w', "WIP")]

/-- Two texts that are interchangeable in front of the rest of a query: a shorthand and its long form, or
two spellings of a connective. Names of keys, letters of statuses and connectives stand in any case. -/
inductive Interchangeable (behind : List Char) : (short long : List Char) → Prop where
  | sigil (sigil : Sigil) {name value : List Char}
      (names : Text.lowerAscii (String.ofList name) = sigil.key.word) (word : IsWord value) :
      Interchangeable behind (sigil.sign :: value) (name ++ ':' :: value)
  | status {letter : Char} {status : String} {name : List Char}
      (stands : (letter.toLower, status) ∈ statusWords)
      (names : Text.lowerAscii (String.ofList name) = "status") :
      Interchangeable behind ['%', letter] (name ++ ':' :: status.toList)
  | quotedValue {name otherName value : List Char} (key : PropertyKey)
      (names : Text.lowerAscii (String.ofList name) = key.word)
      (otherNames : Text.lowerAscii (String.ofList otherName) = key.word)
      (word : IsWord value) :
      Interchangeable behind (name ++ ':' :: value) (otherName ++ ':' :: '"' :: (value ++ ['"']))
  | connective {word otherWord : List Char}
      (joins : Text.lowerAscii (String.ofList word) ∈ connectives)
      (same : Text.lowerAscii (String.ofList otherWord) = Text.lowerAscii (String.ofList word)) :
      Interchangeable behind word otherWord
  | quotedWord {word : List Char} (isWord : IsWord word)
      (starts : ∀ c tail, word = c :: tail → Text.isAsciiLetter c = true ∨ c = '_')
      (joinsNothing : Text.lowerAscii (String.ofList word) ∉ connectives)
      (noColon : ∀ tail, behind ≠ ':' :: tail)
      (noMark : word = ['c'] → ∀ tail, behind ≠ '"' :: tail) :
      Interchangeable behind word ('"' :: (word ++ ['"']))

/-! ## Connectives -/

section Connectives

variable {word rest : List Char}

/-- A connective names no key, so a query cannot go on with it and a colon. -/
theorem not_rowOf_connective_colon
    (joins : Text.lowerAscii (String.ofList word) ∈ connectives)
    (lexemes : List Lexeme) : ¬ RowOf (word ++ ':' :: rest) lexemes := by
  have unknown : PropertyKey.ofWord? (String.ofList word) = none := by
    rw [PropertyKey.ofWord?]
    simp only [connectives, List.mem_cons, List.not_mem_nil, or_false] at joins
    rcases joins with lowered | lowered | lowered <;> rw [lowered] <;> decide
  have failed := scan_name (ne_nil_of_connective joins)
    (isAsciiLetter_of_connective joins) rest
  rw [unknown] at failed
  intro row
  obtain ⟨tokens, read, _⟩ := row 0
  obtain ⟨c, tail, rfl⟩ :=
    List.exists_cons_of_ne_nil (ne_nil_of_connective joins)
  have letter := isAsciiLetter_of_connective joins c List.mem_cons_self
  have part : isWordPart c = true := by simp [isWordPart, letter]
  obtain ⟨lexeme, source, behind, _, whole, written, _⟩ :=
    Cursor.exists_source_of_tokens (not_isBlank_of_isWordPart part) read
  have found := written.scan_eq
  rw [List.cons_append, ← whole] at found
  exact faulty_ne_found (failed.symm.trans found)

theorem plain_ofWord {text other : String}
    (joins : Text.lowerAscii text ∈ connectives)
    (same : Text.lowerAscii other = Text.lowerAscii text) :
    (ofWord other).plain = (ofWord text).plain := by
  simp only [connectives, List.mem_cons, List.not_mem_nil, or_false] at joins
  rw [ofWord, ofWord, same]
  rcases joins with lowered | lowered | lowered <;> rw [lowered] <;> rfl

theorem ofWord_of_not_mem_connectives {text : String}
    (joinsNothing : Text.lowerAscii text ∉ connectives) :
    ofWord text = .string text false := by
  unfold ofWord
  split
  · next lowered => exact absurd (by rw [lowered]; decide) joinsNothing
  · next lowered => exact absurd (by rw [lowered]; decide) joinsNothing
  · next lowered => exact absurd (by rw [lowered]; decide) joinsNothing
  · rfl

end Connectives

/-! ## Sources of the same lexeme -/

section Sources

variable {word short long behind : List Char}

theorem statusOfLetter?_of_mem {letter : Char} {status : String}
    (stands : (letter.toLower, status) ∈ statusWords) :
    statusOfLetter? letter = some status := by
  simp only [statusWords, List.mem_cons, List.not_mem_nil, or_false,
    Prod.mk.injEq] at stands
  rw [statusOfLetter?]
  rcases stands with same | same | same | same | same <;>
    rw [same.1, same.2] <;> rfl

theorem isWord_of_mem_statusWords {letter : Char} {status : String}
    (stands : (letter, status) ∈ statusWords) : IsWord status.toList := by
  have words : ∀ entry ∈ statusWords,
      entry.2.toList ≠ [] ∧ entry.2.toList.all isWordPart = true := by
    decide
  obtain ⟨nonempty, parts⟩ := words _ stands
  exact ⟨nonempty, List.all_eq_true.mp parts⟩

theorem IsWord.read_append_quote (isWord : IsWord word) :
    Quoted.read (word ++ ['"']) = .closed word (word ++ ['"']).length := by
  refine Quoted.read_append_quote fun c member => ⟨?_, ?_⟩
  · rintro rfl
    exact absurd (isWord.parts '"' member) (by decide)
  · rintro rfl
    exact absurd (isWord.parts '\\' member) (by decide)

/-- Interchangeable texts are sources of the same lexeme, up to its spelling; but nothing can be read
from a connective in front of a colon. -/
theorem Interchangeable.exists_sources
    (pair : Interchangeable behind short long) (ends : EndsWord behind) :
    (∃ lexeme other, IsSource short lexeme behind ∧
      IsSource long other behind ∧ other.plain = lexeme.plain) ∨
    ∀ lexemes, ¬ RowOf (short ++ behind) lexemes ∧
      ¬ RowOf (long ++ behind) lexemes := by
  cases pair with
  | sigil sigil names word =>
      have named := PropertyKey.ofWord?_eq_some_iff.mpr names
      exact Or.inl ⟨_, _, .sigil sigil word ends, .property named word ends, rfl⟩
  | status stands names =>
      have known := statusOfLetter?_of_mem stands
      have named : PropertyKey.ofWord? _ = some .status :=
        PropertyKey.ofWord?_eq_some_iff.mpr names
      have long := IsSource.property named (isWord_of_mem_statusWords stands) ends
      rw [String.ofList_toList] at long
      exact Or.inl ⟨_, _, .status known, long, rfl⟩
  | quotedValue key names otherNames word =>
      have named := PropertyKey.ofWord?_eq_some_iff.mpr names
      have otherNamed := PropertyKey.ofWord?_eq_some_iff.mpr otherNames
      exact Or.inl ⟨_, _, .property named word ends,
        .quotedProperty otherNamed word.read_append_quote, rfl⟩
  | @connective word otherWord joins same =>
      have otherJoins := joins
      rw [← same] at otherJoins
      by_cases colon : ∃ tail, behind = ':' :: tail
      · obtain ⟨tail, rfl⟩ := colon
        exact Or.inr fun lexemes => ⟨not_rowOf_connective_colon joins lexemes,
          not_rowOf_connective_colon otherJoins lexemes⟩
      · have noColon := not_exists.mp colon
        exact Or.inl ⟨_, _, .word (isBareWord_of_connective joins ends noColon),
          .word (isBareWord_of_connective otherJoins ends noColon),
          plain_ofWord joins same⟩
  | quotedWord isWord starts joinsNothing noColon noMark =>
      obtain ⟨c, tail, begins⟩ := List.exists_cons_of_ne_nil isWord.nonempty
      have isStart : isWordStart c = true := by
        simpa [isWordStart] using starts c tail begins
      have bare : IsBareWord short behind :=
        ⟨⟨c, tail, begins, isStart⟩, isWord.parts, ends, noColon, noMark⟩
      have written := IsSource.word bare
      rw [ofWord_of_not_mem_connectives joinsNothing] at written
      exact Or.inl ⟨_, _, written, .string isWord.read_append_quote, rfl⟩

/-- Interchangeable texts are read alike in front of the rest. -/
theorem Interchangeable.readAlike (pair : Interchangeable behind short long)
    (ends : EndsWord behind) :
    ReadAlike (short ++ behind) (long ++ behind) ∧
      ReadAlike (long ++ behind) (short ++ behind) := by
  rcases pair.exists_sources ends with
    ⟨lexeme, other, written, otherWritten, same⟩ | unread
  · exact ⟨readAlike_of_sources written otherWritten same,
      readAlike_of_sources otherWritten written same.symm⟩
  · exact ⟨fun lexemes row => absurd row (unread lexemes).1,
      fun lexemes row => absurd row (unread lexemes).2⟩

end Sources

end Lexeme

namespace Expr

/-! ## Queries with shorthands -/

section Queries

variable {before short long behind : String} {tokens : List Token}

/-- In a query, interchangeable texts can take each other's place behind a beginning that has tokens by
itself and is empty or ends in a blank or an opening parenthesis, in front of anything that does not go on
with a word character: the one query is accepted just if the other is, as the same expression. -/
theorem ofText_interchanged (read : Token.ofText before = .ok tokens)
    (lets : Lexeme.LetsBegin before.toList)
    (ends : Lexeme.EndsWord behind.toList)
    (pair : Lexeme.Interchangeable behind.toList short.toList long.toList)
    (expr : Expr) :
    ofText (before ++ short ++ behind) = .ok expr ↔
      ofText (before ++ long ++ behind) = .ok expr := by
  obtain ⟨others, rfl, _⟩ := Token.exists_append_end read
  have row := Lexeme.rowOf_ofText read
  rw [List.map_append] at row
  obtain ⟨alike, alikeBack⟩ := pair.readAlike ends
  have divided : ∀ middle : String, (before ++ middle ++ behind).toList =
      before.toList ++ (middle.toList ++ behind.toList) := by
    intro middle
    rw [String.toList_append, String.toList_append, List.append_assoc]
  have there := alike.append row lets
  have back := alikeBack.append row lets
  rw [← divided, ← divided] at there back
  exact ⟨ofText_of_readAlike there, ofText_of_readAlike back⟩

theorem ofText_interchanged_project :
    Token.ofText "\"é\" (" = .ok [⟨.string "é" false, 0⟩,
      ⟨.symbol .openParen "(", 5⟩, ⟨.endOfQuery, 6⟩] ∧
    Lexeme.LetsBegin "\"é\" (".toList ∧
    Lexeme.EndsWord ")".toList ∧
    Lexeme.Interchangeable ")".toList "+w".toList "Project:w".toList ∧
    ofText ("\"é\" (" ++ "Project:w" ++ ")") =
      .ok (and [string "é" false, property .project "w"]) := by
  have quoted : (Cursor.start "\"é\" (".toList).next =
      (.ok ⟨.string "é" false, 0⟩, ⟨4, " (".toList⟩) := rfl
  have opening : (Cursor.mk 4 " (".toList).next =
      (.ok ⟨.symbol .openParen "(", 5⟩, ⟨6, []⟩) := rfl
  have read : Token.ofText "\"é\" (" = .ok [⟨.string "é" false, 0⟩,
      ⟨.symbol .openParen "(", 5⟩, ⟨.endOfQuery, 6⟩] := by
    rw [Token.ofText, Cursor.tokens_of_next quoted rfl,
      Cursor.tokens_of_next opening rfl, Cursor.tokens_nil]
    rfl
  have lets : Lexeme.LetsBegin "\"é\" (".toList := by
    intro front c divided
    have whole : ['"', 'é', '"', ' '] ++ ['('] = front ++ [c] := divided
    obtain ⟨_, last⟩ := List.append_inj' whole rfl
    exact Or.inr (List.singleton_inj.mp last).symm
  have ends : Lexeme.EndsWord ")".toList := by
    intro c tail begins
    obtain ⟨rfl, _⟩ := List.cons.inj begins
    rfl
  have word : Lexeme.IsWord ['w'] := ⟨by decide, List.all_eq_true.mp rfl⟩
  have pair : Lexeme.Interchangeable ")".toList "+w".toList "Project:w".toList :=
    @Lexeme.Interchangeable.sigil _ .project "Project".toList _ (by decide) word
  have first : (Cursor.start "\"é\" (+w)".toList).next =
      (.ok ⟨.string "é" false, 0⟩, ⟨4, " (+w)".toList⟩) := rfl
  have second : (Cursor.mk 4 " (+w)".toList).next =
      (.ok ⟨.symbol .openParen "(", 5⟩, ⟨6, "+w)".toList⟩) := rfl
  have third : (Cursor.mk 6 "+w)".toList).next =
      (.ok ⟨.property (some .project) "w", 6⟩, ⟨8, ")".toList⟩) := rfl
  have fourth : (Cursor.mk 8 ")".toList).next =
      (.ok ⟨.symbol .closeParen ")", 8⟩, ⟨9, []⟩) := rfl
  have shortRead : Token.ofText ("\"é\" (" ++ "+w" ++ ")") =
      .ok [⟨.string "é" false, 0⟩, ⟨.symbol .openParen "(", 5⟩,
        ⟨.property (some .project) "w", 6⟩, ⟨.symbol .closeParen ")", 8⟩,
        ⟨.endOfQuery, 9⟩] := by
    change Token.ofText "\"é\" (+w)" = _
    rw [Token.ofText, Cursor.tokens_of_next first rfl,
      Cursor.tokens_of_next second rfl, Cursor.tokens_of_next third rfl,
      Cursor.tokens_of_next fourth rfl, Cursor.tokens_nil]
    rfl
  have accepted : ofText ("\"é\" (" ++ "+w" ++ ")") =
      .ok (and [string "é" false, property .project "w"]) := by
    rw [ofText_of_tokens shortRead]
    rfl
  exact ⟨read, lets, ends, pair,
    (ofText_interchanged read lets ends pair _).mp accepted⟩

end Queries

end Expr

end RecordQuery
