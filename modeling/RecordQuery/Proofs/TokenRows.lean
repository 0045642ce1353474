import RecordQuery.Proofs.TokenSpans
import RecordQuery.Report.Query

/-!
# Rows of tokens

The tokens of a query are shown in a table with one row for each. The row of a string is one line, since
the string is spelled out, and so is that of a symbol. The value of a property is shown as it is, and a
line feed in it divides the row. Wherever the row goes on, its first line has the position and the kind.
-/

namespace RecordQuery

/-! ## Symbols -/

namespace Lexeme

section Symbols

variable {source rest : List Char} {meaning : Symbol} {spelling : String}

theorem IsWord.lineFeed_not_mem {word : List Char} (isWord : IsWord word) :
    '\n' ∉ word := by
  intro member
  have part := isWord.parts '\n' member
  revert part
  decide

/-- A symbol is spelled on one line. -/
theorem IsSource.lineFeed_not_mem_spelling
    (written : IsSource source (.symbol meaning spelling) rest) :
    '\n' ∉ spelling.toList := by
  have kept : source = spelling.toList := written.keepsSource
  rw [← kept]
  generalize isSymbol : symbol meaning spelling = lexeme at written
  cases written with
  | openParen => decide
  | closeParen => decide
  | mark asked => cases asked <;> decide
  | sign asked => cases asked <;> decide
  | absenceMark asked => cases asked <;> decide
  | anySignal => decide
  | negation => decide
  | word bare => exact bare.isWord.lineFeed_not_mem
  | _ => cases isSymbol

end Symbols

end Lexeme

namespace Token

section Sources

variable {query : String} {tokens : List Token} {token : Token}

/-- Every token of a query but the end marker has a source. -/
theorem exists_source_of_mem (read : ofText query = .ok tokens)
    (member : token ∈ tokens) :
    token.lexeme = .endOfQuery ∨
      ∃ source rest, Lexeme.IsSource source token.lexeme rest := by
  obtain ⟨index, listed⟩ := List.mem_iff_getElem?.mp member
  have found := Cursor.next_after_of_tokens read listed
  obtain ⟨lexeme, length, scanned, rfl, _⟩ := Cursor.scan_of_next found
  cases left : ((Cursor.start query.toList).after index).skipBlanks.rest with
  | nil =>
      rw [left] at scanned
      exact Or.inl (Lexeme.found_inj scanned).1.symm
  | cons c tail =>
      rw [left] at scanned
      obtain ⟨source, rest, _, _, written⟩ :=
        Lexeme.beginsWith_of_scan (List.cons_ne_nil c tail) scanned
      exact Or.inr ⟨source, rest, written⟩

end Sources

end Token

namespace Report

open Text (Style lines trimEnd)

/-! ## One row -/

/-- What the row of a token begins with: its position and its kind, each in its column. -/
def rowStart (token : Token) : List Char :=
  Text.pad positionWidth (toString token.position).toList ++
    ' ' :: token.lexeme.kindName.toList

/-- Whether a token is a property with a line feed in its value, blanks at the end apart. -/
def BreaksRow (token : Token) : Prop :=
  ∃ key value, token.lexeme = .property key value ∧
    '\n' ∈ trimEnd value.toList

section OneRow

variable {query : String} {tokens : List Token} {token : Token}

theorem isWord_kindName (lexeme : Lexeme) :
    Lexeme.IsWord lexeme.kindName.toList := by
  have ofSymbol : ∀ meaning : Symbol,
      Lexeme.IsWord meaning.kindName.toList := by
    intro meaning
    rcases meaning with _ | _ | _ | _ | _ | (_ | _ | _) | (_ | _ | _) | _ <;>
      exact ⟨by decide, List.all_eq_true.mp (by decide)⟩
  cases lexeme with
  | string =>
      change Lexeme.IsWord "String".toList
      exact ⟨by decide, List.all_eq_true.mp (by decide)⟩
  | property =>
      change Lexeme.IsWord "Property".toList
      exact ⟨by decide, List.all_eq_true.mp (by decide)⟩
  | symbol meaning spelling => exact ofSymbol meaning
  | endOfQuery => exact ⟨by decide, List.all_eq_true.mp (by decide)⟩

theorem lineFeed_not_mem_rowStart (token : Token) : '\n' ∉ rowStart token := by
  have position : '\n' ∉ Nat.toDigits 10 token.position :=
    Text.lineFeed_not_mem_toDigits (by decide) _
  have kind := (isWord_kindName token.lexeme).lineFeed_not_mem
  simp [rowStart, Text.pad, position, kind]

/-- A kind ends in a letter, so the blanks that are dropped stand behind it. -/
theorem trimEnd_rowStart (token : Token) :
    trimEnd (rowStart token) = rowStart token := by
  apply Text.trimEnd_of_ending
  intro c last
  have isWord := isWord_kindName token.lexeme
  have ends : c ∈ token.lexeme.kindName.toList.getLast? := by
    rw [rowStart, List.getLast?_append_cons,
      List.getLast?_cons_of_ne_nil isWord.nonempty] at last
    exact last
  exact Lexeme.not_isBlank_of_isWordPart
    (isWord.parts c (List.mem_of_getLast? ends))

theorem tokenRow_eq (token : Token) :
    ∃ spaces, '\n' ∉ spaces ∧
      tokenRow token =
        trimEnd (rowStart token ++ (spaces ++ lexemeValue token.lexeme)) := by
  refine ⟨List.replicate
    (kindWidth - token.lexeme.kindName.toList.length) ' ' ++ [' '], ?_, ?_⟩
  · simp
  · simp [tokenRow, rowStart, joinCells, List.intercalate, Text.pad]

theorem exists_tokenRow_eq_append (token : Token) :
    ∃ rest, tokenRow token = rowStart token ++ rest := by
  obtain ⟨spaces, _, row⟩ := tokenRow_eq token
  rw [row, Text.trimEnd_append]
  split
  · exact ⟨[], by rw [trimEnd_rowStart, List.append_nil]⟩
  · exact ⟨_, rfl⟩

/-- Where a text is trimmed, line feeds stay behind a front that has none. -/
theorem lineFeed_mem_trimEnd_append_iff {front back : List Char}
    (unbroken : '\n' ∉ front) :
    '\n' ∈ trimEnd (front ++ back) ↔ '\n' ∈ trimEnd back := by
  rw [Text.trimEnd_append]
  split
  · next nothing =>
      have fromFront := mt (Text.trimEnd_prefix_self front).mem unbroken
      simp [nothing, fromFront]
  · simp [unbroken]

/-- Of the values that are shown, only those of properties can have line feeds, if symbols are spelled on
one line. -/
theorem lineFeed_mem_lexemeValue_iff {lexeme : Lexeme}
    (spelled : ∀ meaning spelling, lexeme = .symbol meaning spelling →
      '\n' ∉ spelling.toList) :
    '\n' ∈ trimEnd (lexemeValue lexeme) ↔
      ∃ key value, lexeme = .property key value ∧
        '\n' ∈ trimEnd value.toList := by
  have unbroken : ∀ text, '\n' ∉ text → '\n' ∉ trimEnd text :=
    fun text => mt (Text.trimEnd_prefix_self text).mem
  cases lexeme with
  | string value caseSensitive =>
      have shown : '\n' ∉ lexemeValue (.string value caseSensitive) := by
        cases caseSensitive <;>
          simp [lexemeValue, Text.lineFeed_not_mem_escaped]
      simp [unbroken _ shown]
  | symbol meaning spelling =>
      simp [lexemeValue, Lexeme.text, unbroken _ (spelled meaning spelling rfl)]
  | endOfQuery => simp [lexemeValue, Lexeme.text, unbroken]
  | property key value =>
      have shown : '\n' ∈ trimEnd (lexemeValue (.property key value)) ↔
          '\n' ∈ trimEnd value.toList := by
        cases key with
        | none => rfl
        | some key =>
            have word : '\n' ∉ key.word.toList ++ [':'] := by
              cases key <;> decide
            have parts : lexemeValue (.property (some key) value) =
                key.word.toList ++ [':'] ++ value.toList := by
              simp [lexemeValue]
            rw [parts, lineFeed_mem_trimEnd_append_iff word]
      simp [shown]

theorem lineFeed_mem_tokenRow_iff (read : Token.ofText query = .ok tokens)
    (member : token ∈ tokens) :
    '\n' ∈ tokenRow token ↔ BreaksRow token := by
  obtain ⟨spaces, blank, row⟩ := tokenRow_eq token
  rw [row, lineFeed_mem_trimEnd_append_iff (lineFeed_not_mem_rowStart token),
    lineFeed_mem_trimEnd_append_iff blank]
  apply lineFeed_mem_lexemeValue_iff
  intro meaning spelling isSymbol
  rcases Token.exists_source_of_mem read member with ending | written
  · rw [isSymbol] at ending
    cases ending
  · rw [isSymbol] at written
    obtain ⟨source, rest, written⟩ := written
    exact written.lineFeed_not_mem_spelling

/-- Whatever the value of a token is, its position and its kind stand on the first line of its row. -/
theorem exists_lines_tokenRow (read : Token.ofText query = .ok tokens)
    (member : token ∈ tokens) :
    ∃ first others, lines (tokenRow token) = first :: others ∧
      rowStart token <+: first ∧ (others = [] ↔ ¬ BreaksRow token) := by
  obtain ⟨rest, row⟩ := exists_tokenRow_eq_append token
  obtain ⟨line, others, divided⟩ :=
    List.exists_cons_of_ne_nil (Text.lines_ne_nil rest)
  have joined := Text.lines_append_of_no_lineFeed
    (lineFeed_not_mem_rowStart token) divided
  rw [← row] at joined
  refine ⟨_, others, joined, List.prefix_append _ _, ?_⟩
  rw [← lineFeed_mem_tokenRow_iff read member,
    ← Text.length_lines_eq_one_iff, joined]
  simp

end OneRow

/-! ## The table -/

/-- Whether a text is a table of tokens: behind a first line it has one line for each token, in their
order, that begins with the position and the kind of the token, and nothing else. -/
def ListsTokens (tokens : List Token) (text : List Char) : Prop :=
  ∃ header rows, lines text = header :: rows ++ [[]] ∧
    rows.length = tokens.length ∧
    ∀ (index : Nat) (token : Token) (row : List Char),
      tokens[index]? = some token → rows[index]? = some row →
        rowStart token <+: row

section Table

variable {query : String} {tokens : List Token}

theorem lines_tokensTable (tokens : List Token) (colors : Bool) :
    lines (tokensTable tokens colors).toList =
      Style.dimmed.applyIf colors tokensHeader ::
        tokens.flatMap (fun token => lines (tokenRow token)) ++ [[]] := by
  have unbroken : '\n' ∉ Style.dimmed.applyIf colors tokensHeader := by
    cases colors <;> decide
  rw [tokensTable, lines_joinLines, List.flatMap_cons,
    Text.lines_of_no_lineFeed unbroken, List.flatMap_map]
  rfl

/-- Parts that are not empty are as many as the elements they are parts of only if each is single. -/
theorem length_eq_one_of_length_flatMap {α β : Type} {parts : α → List β}
    (nonempty : ∀ item, parts item ≠ []) {items : List α}
    (same : (items.flatMap parts).length = items.length) :
    ∀ item ∈ items, (parts item).length = 1 := by
  have grows : ∀ others : List α,
      others.length ≤ (others.flatMap parts).length := by
    intro others
    induction others with
    | nil => exact Nat.le_refl 0
    | cons item others inductionHypothesis =>
        have positive := List.length_pos_iff.mpr (nonempty item)
        rw [List.flatMap_cons, List.length_append, List.length_cons]
        omega
  induction items with
  | nil => simp
  | cons item items inductionHypothesis =>
      have positive := List.length_pos_iff.mpr (nonempty item)
      have others := grows items
      rw [List.flatMap_cons, List.length_append, List.length_cons] at same
      rw [List.forall_mem_cons]
      exact ⟨by omega, inductionHypothesis (by omega)⟩

theorem listsTokens_iff (read : Token.ofText query = .ok tokens)
    (colors : Bool) :
    ListsTokens tokens (tokensTable tokens colors).toList ↔
      ∀ token ∈ tokens, ¬ BreaksRow token := by
  rw [ListsTokens, lines_tokensTable]
  constructor
  · rintro ⟨header, rows, divided, counted, _⟩ token member
    have same := List.append_cancel_right divided
    have rowsEquality := (List.cons.inj same).2
    rw [← rowsEquality] at counted
    have single := length_eq_one_of_length_flatMap
      (fun token => Text.lines_ne_nil (tokenRow token)) counted token member
    rw [← lineFeed_mem_tokenRow_iff read member]
    exact Text.length_lines_eq_one_iff.mp single
  · intro unbroken
    have single : tokens.flatMap (fun token => lines (tokenRow token)) =
        tokens.map tokenRow := by
      rw [List.map_eq_flatMap]
      refine List.flatMap_congr fun token member => ?_
      apply Text.lines_of_no_lineFeed
      rw [lineFeed_mem_tokenRow_iff read member]
      exact unbroken token member
    refine ⟨_, _, rfl, ?_, ?_⟩
    · rw [single, List.length_map]
    · intro index token row listed shown
      rw [single, List.getElem?_map, listed] at shown
      cases shown
      obtain ⟨rest, row⟩ := exists_tokenRow_eq_append token
      rw [row]
      exact List.prefix_append _ _

/-- The table of the tokens of a query consists of a header and the rows of the tokens, each of which begins
with the position and the kind on its first line. It has one line for each token just if no property has a
line feed in its value, blanks at the end apart. -/
theorem rows_of_tokensTable (read : Token.ofText query = .ok tokens)
    (colors : Bool) :
    lines (tokensTable tokens colors).toList =
      Style.dimmed.applyIf colors tokensHeader ::
        tokens.flatMap (fun token => lines (tokenRow token)) ++ [[]] ∧
    (∀ token ∈ tokens, ∃ first others,
      lines (tokenRow token) = first :: others ∧
        rowStart token <+: first ∧ (others = [] ↔ ¬ BreaksRow token)) ∧
    (ListsTokens tokens (tokensTable tokens colors).toList ↔
      ∀ token ∈ tokens, ¬ BreaksRow token) := by
  refine ⟨lines_tokensTable tokens colors, ?_, listsTokens_iff read colors⟩
  exact fun token member => exists_lines_tokenRow read member

/-- The line feed of the string is spelled out, and that of the property stands at the end of its row. -/
theorem rows_of_tokensTable_unbroken :
    Token.ofText "\"a\nb\" name:\"c\n\"" =
      .ok [⟨.string "a\nb" false, 0⟩, ⟨.property (some .name) "c\n", 6⟩,
        ⟨.endOfQuery, 15⟩] ∧
    ListsTokens
      [⟨.string "a\nb" false, 0⟩, ⟨.property (some .name) "c\n", 6⟩,
        ⟨.endOfQuery, 15⟩]
      (tokensTable
        [⟨.string "a\nb" false, 0⟩, ⟨.property (some .name) "c\n", 6⟩,
          ⟨.endOfQuery, 15⟩] true).toList := by
  have first : (Cursor.start "\"a\nb\" name:\"c\n\"".toList).next =
      (.ok ⟨.string "a\nb" false, 0⟩, ⟨5, " name:\"c\n\"".toList⟩) := rfl
  have second : (Cursor.mk 5 " name:\"c\n\"".toList).next =
      (.ok ⟨.property (some .name) "c\n", 6⟩, ⟨15, []⟩) := rfl
  have read : Token.ofText "\"a\nb\" name:\"c\n\"" =
      .ok [⟨.string "a\nb" false, 0⟩, ⟨.property (some .name) "c\n", 6⟩,
        ⟨.endOfQuery, 15⟩] := by
    rw [Token.ofText, Cursor.tokens_of_next first rfl,
      Cursor.tokens_of_next second rfl, Cursor.tokens_nil]
    rfl
  obtain ⟨_, _, listed⟩ := rows_of_tokensTable read true
  refine ⟨read, listed.mpr ?_⟩
  intro token member
  rintro ⟨key, value, isProperty, broken⟩
  simp only [List.mem_cons, List.not_mem_nil, or_false] at member
  rcases member with rfl | rfl | rfl
  · cases isProperty
  · cases isProperty
    revert broken
    decide
  · cases isProperty

/-- The line feed in the value of the property divides its row, so the table has four lines for two
tokens. -/
theorem not_listsTokens_of_broken_row :
    Token.ofText "name:\"a\nb\"" =
      .ok [⟨.property (some .name) "a\nb", 0⟩, ⟨.endOfQuery, 10⟩] ∧
    ¬ ListsTokens [⟨.property (some .name) "a\nb", 0⟩, ⟨.endOfQuery, 10⟩]
      (tokensTable
        [⟨.property (some .name) "a\nb", 0⟩, ⟨.endOfQuery, 10⟩]
        false).toList := by
  have first : (Cursor.start "name:\"a\nb\"".toList).next =
      (.ok ⟨.property (some .name) "a\nb", 0⟩, ⟨10, []⟩) := rfl
  have read : Token.ofText "name:\"a\nb\"" =
      .ok [⟨.property (some .name) "a\nb", 0⟩, ⟨.endOfQuery, 10⟩] := by
    rw [Token.ofText, Cursor.tokens_of_next first rfl, Cursor.tokens_nil]
    rfl
  refine ⟨read, fun listed => ?_⟩
  have unbroken := (listsTokens_iff read false).mp listed
  exact unbroken _ List.mem_cons_self ⟨some .name, "a\nb", rfl, by decide⟩

end Table

end Report

end RecordQuery
