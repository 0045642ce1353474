import RecordQuery.Token.Grammar
import RecordQuery.Token.Lexer

/-!
# Tokens of a text, one by one

If a text begins with a lexeme, its tokens are the token of that lexeme and the tokens of the rest;
blanks in front of a lexeme only move it. Words are found as far as their characters go, and in front of
a colon they are looked up as the keys of properties.
-/

namespace RecordQuery

/-! ## Cursors -/

namespace Cursor

section Tokens

/-- The tokens from a place on, by the next token. -/
theorem tokens_eq (cursor : Cursor) :
    cursor.tokens =
      match cursor.next with
      | (.error error, _) => .error error
      | (.ok token, following) =>
          if token.isEnd = false then
            following.tokens.map fun others => token :: others
          else .ok [token] := by
  rw [tokens]
  split
  · next error _ found => rw [found]
  · next token following found =>
      simp only [found]
      split
      · cases following.tokens <;> rfl
      · rfl

theorem tokens_of_next {cursor following : Cursor} {token : Token}
    (found : cursor.next = (.ok token, following))
    (notEnd : token.isEnd = false) :
    cursor.tokens = following.tokens.map fun others => token :: others := by
  rw [tokens_eq, found]
  exact if_pos notEnd

theorem tokens_of_next_end {cursor following : Cursor} {token : Token}
    (found : cursor.next = (.ok token, following))
    (isEnd : ¬ token.isEnd = false) : cursor.tokens = .ok [token] := by
  rw [tokens_eq, found]
  exact if_neg isEnd

theorem tokens_of_next_error {cursor following : Cursor}
    {error : LexicalError} (found : cursor.next = (.error error, following)) :
    cursor.tokens = .error error := by
  rw [tokens_eq, found]

theorem tokens_congr {cursor other : Cursor}
    (same : cursor.next = other.next) : cursor.tokens = other.tokens := by
  rw [tokens_eq, tokens_eq, same]

theorem skipBlanks_of_not_blank {cursor : Cursor} {c : Char}
    {rest : List Char} (begins : cursor.rest = c :: rest)
    (notBlank : Text.isBlank c = false) : cursor.skipBlanks = cursor := by
  obtain ⟨position, text⟩ := cursor
  simp only at begins
  simp [skipBlanks, advance, begins, notBlank]

/-- A blank only moves the tokens behind it. -/
theorem tokens_blank {c : Char} (blank : Text.isBlank c = true)
    (position : Nat) (rest : List Char) :
    (Cursor.mk position (c :: rest)).tokens =
      (Cursor.mk (position + c.utf8Size) rest).tokens := by
  have same :
      (Cursor.mk position (c :: rest)).skipBlanks =
        (Cursor.mk (position + c.utf8Size) rest).skipBlanks := by
    simp [skipBlanks, advance, blank, Nat.add_assoc]
  apply tokens_congr
  rw [next, next, same]

/-- A place behind some characters of a text. -/
theorem advance_of_append {cursor : Cursor} {read rest : List Char}
    (begins : cursor.rest = read ++ rest) :
    cursor.advance read.length =
      ⟨cursor.position + Text.byteLength read, rest⟩ := by
  rw [advance, begins, List.take_left, List.drop_left]

theorem next_of_found {cursor : Cursor} {lexeme : Lexeme} {length : Nat}
    (still : cursor.skipBlanks = cursor)
    (found : Lexeme.scan cursor.rest = .found lexeme length) :
    cursor.next = (.ok ⟨lexeme, cursor.position⟩, cursor.advance length) := by
  rw [next, still, found]
  rfl

theorem next_of_faulty {cursor : Cursor} {fault : LexicalFault}
    {offset length : Nat} (still : cursor.skipBlanks = cursor)
    (failed : Lexeme.scan cursor.rest = .faulty fault offset length) :
    cursor.next =
      (.error ⟨fault, (cursor.advance offset).position⟩,
        cursor.advance length) := by
  rw [next, still, failed]
  rfl

/-- A lexeme at the head of a text is its first token, and the others are those of the rest. -/
theorem tokens_of_found {word rest : List Char} {c : Char}
    {tail : List Char} {lexeme : Lexeme}
    (begins : word = c :: tail) (notBlank : Text.isBlank c = false)
    (found : Lexeme.scan (word ++ rest) = .found lexeme word.length)
    (notEnd : lexeme.isEnd = false) (position : Nat) :
    (Cursor.mk position (word ++ rest)).tokens =
      (Cursor.mk (position + Text.byteLength word) rest).tokens.map
        fun others => ⟨lexeme, position⟩ :: others := by
  have still :
      (Cursor.mk position (word ++ rest)).skipBlanks =
        Cursor.mk position (word ++ rest) :=
    skipBlanks_of_not_blank (by rw [begins]; rfl) notBlank
  have next := next_of_found still found
  rw [advance_of_append rfl] at next
  exact tokens_of_next next notEnd

theorem tokens_nil (position : Nat) :
    (Cursor.mk position []).tokens = .ok [⟨.endOfQuery, position⟩] := by
  rw [tokens_eq]
  rfl

end Tokens

end Cursor

namespace Lexeme

/-! ## Characters -/

section Characters

theorem not_isBlank_of_ascii {c : Char} (ascii : c.toNat < 0x80)
    (high : 0x20 < c.toNat) : Text.isBlank c = false := by
  simp only [Text.isBlank, Text.scatteredBlanks, List.contains_cons,
    List.contains_nil, Bool.or_false, Bool.or_eq_false_iff,
    Bool.and_eq_false_iff, decide_eq_false_iff_not, beq_eq_false_iff_ne]
  omega

theorem not_isBlank_of_isWordPart {c : Char} (part : isWordPart c = true) :
    Text.isBlank c = false := by
  simp only [isWordPart, Text.isAsciiLetter, Text.isAsciiDigit,
    Bool.or_eq_true, Bool.and_eq_true, decide_eq_true_eq, beq_iff_eq,
    Char.le_def, UInt32.le_iff_toNat_le] at part
  rcases part with (((small | capital) | digit) | rfl) | rfl
  · change 0x61 ≤ c.toNat ∧ c.toNat ≤ 0x7A at small
    exact not_isBlank_of_ascii (by omega) (by omega)
  · change 0x41 ≤ c.toNat ∧ c.toNat ≤ 0x5A at capital
    exact not_isBlank_of_ascii (by omega) (by omega)
  · change 0x30 ≤ c.toNat ∧ c.toNat ≤ 0x39 at digit
    exact not_isBlank_of_ascii (by omega) (by omega)
  · decide
  · decide

/-- Nothing that stands alone is followed by a further word character. -/
theorem not_isWordPart_of_standsAlone {c : Char} {rest : List Char}
    (alone : standsAlone (c :: rest) = true) : isWordPart c = false := by
  cases part : isWordPart c with
  | false => rfl
  | true =>
      have notBlank := not_isBlank_of_isWordPart part
      have closing : c = ')' := by
        simpa [standsAlone, notBlank] using alone
      rw [closing] at part
      exact absurd part (by decide)

/-- Nothing that stands alone lets a word go on. -/
theorem endsWord_of_standsAlone {rest : List Char}
    (alone : standsAlone rest = true) : EndsWord rest := by
  rintro c tail rfl
  exact not_isWordPart_of_standsAlone alone

theorem takeWhile_isWordPart {word rest : List Char}
    (parts : ∀ c ∈ word, isWordPart c = true) (ends : EndsWord rest) :
    (word ++ rest).takeWhile isWordPart = word := by
  rw [List.takeWhile_append_of_pos parts]
  cases rest with
  | nil => simp
  | cons c tail => simp [ends c tail rfl]

theorem dropWhile_isWordPart {word rest : List Char}
    (parts : ∀ c ∈ word, isWordPart c = true) (ends : EndsWord rest) :
    (word ++ rest).dropWhile isWordPart = rest := by
  rw [List.dropWhile_append_of_pos parts]
  cases rest with
  | nil => rfl
  | cons c tail => simp [ends c tail rfl]

end Characters

/-! ## Words -/

section Words

/-- A letter that begins a word, unless it marks a string, begins a bare word. -/
theorem scan_eq_scanWord {c : Char} {rest : List Char}
    (starts : isWordStart c = true)
    (unquoted : ∀ tail, c = 'c' → rest ≠ '"' :: tail) :
    scan (c :: rest) = scanWord (c :: rest) := by
  unfold scan
  split
  · next empty => cases empty
  · next tail equality =>
      cases equality
      exact absurd starts (by decide)
  · next tail equality =>
      cases equality
      exact absurd starts (by decide)
  · next tail equality =>
      cases equality
      exact absurd starts (by decide)
  · next tail equality =>
      cases equality
      exact absurd rfl (unquoted tail rfl)
  -- Parentheses and sigils begin no word.
  iterate 7
    · next tail equality =>
        cases equality
        exact absurd starts (by decide)
  · next first tail _ _ _ _ _ _ _ _ _ _ _ equality =>
      cases equality
      have notStar : ¬ (c = '*' ∧ standsAlone rest = true) := by
        rintro ⟨rfl, _⟩
        exact absurd starts (by decide)
      rw [if_neg notStar, if_pos starts]

/-- A word in front of something that is neither a word character nor a colon is found whole. -/
theorem scanWord_bare {word rest : List Char}
    (parts : ∀ c ∈ word, isWordPart c = true) (ends : EndsWord rest)
    (noColon : ∀ tail, rest ≠ ':' :: tail) :
    scanWord (word ++ rest) =
      .found (ofWord (String.ofList word)) word.length := by
  unfold scanWord
  rw [takeWhile_isWordPart parts ends, dropWhile_isWordPart parts ends]
  split
  · next tail => exact absurd rfl (noColon tail)
  · rfl

section Names

variable {name : List Char} {key : PropertyKey}

theorem isAsciiLetter_of_named
    (named : PropertyKey.ofWord? (String.ofList name) = some key) :
    ∀ c ∈ name, Text.isAsciiLetter c = true := by
  apply Text.isAsciiLetter_of_lowerAscii
  rw [PropertyKey.ofWord?_eq_some_iff.mp named]
  cases key <;> decide

theorem ne_nil_of_named
    (named : PropertyKey.ofWord? (String.ofList name) = some key) :
    name ≠ [] := by
  rintro rfl
  have same := PropertyKey.ofWord?_eq_some_iff.mp named
  cases key <;> exact absurd same (by decide)

/-- Letters in front of a colon are the name of a property, or of none. -/
theorem scan_name (nonempty : name ≠ [])
    (letters : ∀ c ∈ name, Text.isAsciiLetter c = true) (rest : List Char) :
    scan (name ++ ':' :: rest) =
      match PropertyKey.ofWord? (String.ofList name) with
      | some key => scanValue key (name.length + 1) rest
      | none => .faulty (.unknownKey (String.ofList name)) 0 name.length := by
  have parts : ∀ c ∈ name, isWordPart c = true := by
    intro c member
    simp [isWordPart, letters c member]
  have ends : EndsWord (':' :: rest) := by
    intro c tail equality
    cases equality
    decide
  have scanned : scan (name ++ ':' :: rest) =
      scanWord (name ++ ':' :: rest) := by
    obtain ⟨c, others, rfl⟩ := List.exists_cons_of_ne_nil nonempty
    have starts : isWordStart c = true := by
      simp [isWordStart, letters c List.mem_cons_self]
    refine scan_eq_scanWord starts fun tail _ equality => ?_
    -- What follows the first letter is another one, or the colon, and no quote.
    cases others with
    | nil => cases equality
    | cons d others =>
        have isQuote : d = '"' := (List.cons.inj equality).1
        have letter := letters d (by simp)
        rw [isQuote] at letter
        cases letter
  rw [scanned, scanWord, takeWhile_isWordPart parts ends,
    dropWhile_isWordPart parts ends]
  rfl

/-- A name of a key and a colon are followed by the value. -/
theorem scan_named
    (named : PropertyKey.ofWord? (String.ofList name) = some key)
    (rest : List Char) :
    scan (name ++ ':' :: rest) = scanValue key (name.length + 1) rest := by
  rw [scan_name (ne_nil_of_named named) (isAsciiLetter_of_named named), named]

end Names

theorem scanValue_bare (key : PropertyKey) (keyLength : Nat)
    {value rest : List Char} (word : IsWord value) (ends : EndsWord rest) :
    scanValue key keyLength (value ++ rest) =
      .found (.property (some key) (String.ofList value))
        (keyLength + value.length) := by
  have noQuote : ∀ tail, value ++ rest = '"' :: tail → False := by
    intro tail equality
    cases value with
    | nil => exact word.nonempty rfl
    | cons c others =>
        have first : c = '"' := (List.cons.inj equality).1
        have part := word.parts c List.mem_cons_self
        rw [first] at part
        exact absurd part (by decide)
  unfold scanValue
  split
  · next tail equality => exact (noQuote tail equality).elim
  · simp only [takeWhile_isWordPart word.parts ends]
    rw [if_neg (by simpa using word.nonempty)]

end Words

end Lexeme

end RecordQuery
