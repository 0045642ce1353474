/-!
# Quoted strings

A string stands between double quotes. Inside, a backslash gives the next character another meaning:
`n`, `r` and `t` stand for line feed, carriage return and tab, all others for themselves. `write`
makes the quoted form of a text, `read` takes the text after an opening quote apart; the main
statement is that `read` gives back what was written, whatever follows.
-/

namespace RecordQuery.Quoted

def meaning : Char → Char
  | 'n' => '\n'
  | 'r' => '\r'
  | 't' => '\t'
  | c => c

def spell : Char → List Char
  | '\\' => ['\\', '\\']
  | '"' => ['\\', '"']
  | '\n' => ['\\', 'n']
  | '\r' => ['\\', 'r']
  | '\t' => ['\\', 't']
  | c => [c]

/-- The quoted form of a text. -/
def write (text : List Char) : List Char :=
  '"' :: (text.flatMap spell ++ ['"'])

/-- How reading after an opening quote ends. -/
inductive Reading where
  /-- The value, and the number of characters up to and including the closing quote. -/
  | closed (value : List Char) (length : Nat)
  /-- There is no closing quote. -/
  | unclosed
  /-- The text ends in a backslash that has no character after it. -/
  | cutEscape
  deriving DecidableEq, Repr

/-- Puts a character, read from `width` characters of text, in front of a reading. -/
def Reading.cons (c : Char) (width : Nat) : Reading → Reading
  | closed value length => closed (c :: value) (width + length)
  | unclosed => unclosed
  | cutEscape => cutEscape

def read : List Char → Reading
  | [] => .unclosed
  | '"' :: _ => .closed [] 1
  | ['\\'] => .cutEscape
  | '\\' :: c :: rest => (read rest).cons (meaning c) 2
  | c :: rest => (read rest).cons c 1

theorem ne_backslash_of_not_paired {c : Char} {rest : List Char}
    (notCut : c = '\\' → rest = [] → False)
    (notEscape : ∀ d others, c = '\\' → rest = d :: others → False) :
    c ≠ '\\' := by
  intro isBackslash
  cases rest with
  | nil => exact notCut isBackslash rfl
  | cons d others => exact notEscape d others isBackslash rfl

theorem read_cons {c : Char} (notQuote : c ≠ '"') (notBackslash : c ≠ '\\')
    (rest : List Char) : read (c :: rest) = (read rest).cons c 1 := by
  rw [read]
  · exact notQuote
  · exact fun equality _ => notBackslash equality
  · exact fun _ _ equality _ => notBackslash equality

/-- A text without quotes and backslashes stands for itself between quotes. -/
theorem read_append_quote {text : List Char} (plain : ∀ c ∈ text, c ≠ '"' ∧ c ≠ '\\') :
    read (text ++ ['"']) = .closed text (text ++ ['"']).length := by
  induction text with
  | nil => rfl
  | cons c rest inductionHypothesis =>
      obtain ⟨notQuote, notBackslash⟩ := plain c List.mem_cons_self
      have others : ∀ d ∈ rest, d ≠ '"' ∧ d ≠ '\\' :=
        fun d member => plain d (List.mem_cons_of_mem c member)
      rw [List.cons_append, read_cons notQuote notBackslash, inductionHypothesis others,
        Reading.cons, List.length_cons, Nat.add_comm]

theorem read_spell_append (c : Char) (rest : List Char) :
    read (spell c ++ rest) = (read rest).cons c (spell c).length := by
  unfold spell
  split
  · simp [read, meaning]
  · simp [read, meaning]
  · simp [read, meaning]
  · simp [read, meaning]
  · simp [read, meaning]
  · next notBackslash notQuote _ _ _ =>
      rw [List.singleton_append, read_cons notQuote notBackslash]
      rfl

/-- Reading gives back the text that was written, and stops behind the closing quote. -/
theorem read_write_append (text rest : List Char) :
    read (text.flatMap spell ++ '"' :: rest) =
      .closed text (text.flatMap spell ++ ['"']).length := by
  induction text with
  | nil => simp [read]
  | cons c text inductionHypothesis =>
      rw [List.flatMap_cons, List.append_assoc, read_spell_append, inductionHypothesis]
      simp [Reading.cons]

/-! ## Closed strings -/

theorem closed_of_cons {reading : Reading} {c : Char} {width : Nat}
    {value : List Char} {length : Nat}
    (closed : reading.cons c width = .closed value length) :
    ∃ inner innerLength, reading = .closed inner innerLength ∧
      length = width + innerLength := by
  cases reading with
  | closed inner innerLength =>
      cases closed
      exact ⟨inner, innerLength, rfl, rfl⟩
  | unclosed => cases closed
  | cutEscape => cases closed

/-- A string that is closed is read the same whatever follows. -/
theorem read_append_of_closed (rest : List Char) {text : List Char} :
    ∀ {value length}, read text = .closed value length →
      read (text ++ rest) = .closed value length := by
  fun_induction read text with
  | case1 => exact fun closed => nomatch closed
  | case2 tail => exact fun closed => closed
  | case3 => exact fun closed => nomatch closed
  | case4 c tail inductionHypothesis =>
      intro value length closed
      obtain ⟨inner, innerLength, reads, _⟩ := closed_of_cons closed
      rw [List.cons_append, List.cons_append, read,
        inductionHypothesis reads, ← reads]
      exact closed
  | case5 c tail notQuote notCut notEscape inductionHypothesis =>
      intro value length closed
      obtain ⟨inner, innerLength, reads, _⟩ := closed_of_cons closed
      have notBackslash := ne_backslash_of_not_paired notCut notEscape
      rw [List.cons_append, read_cons notQuote notBackslash,
        inductionHypothesis reads, ← reads]
      exact closed

/-- The inside of a closed string is closed without the text behind it. -/
theorem exists_inside_of_closed {text : List Char} :
    ∀ {value length}, read text = .closed value length →
      ∃ inside rest, text = inside ++ rest ∧ inside.length = length ∧
        read inside = .closed value inside.length := by
  fun_induction read text with
  | case1 => exact fun closed => nomatch closed
  | case2 tail =>
      intro value length closed
      cases closed
      exact ⟨['"'], tail, rfl, rfl, rfl⟩
  | case3 => exact fun closed => nomatch closed
  | case4 c tail inductionHypothesis =>
      intro value length closed
      obtain ⟨inner, innerLength, reads, rfl⟩ := closed_of_cons closed
      obtain ⟨inside, rest, rfl, rfl, again⟩ := inductionHypothesis reads
      rw [reads] at closed
      have counted : ('\\' :: c :: inside).length = 2 + inside.length := by
        rw [List.length_cons, List.length_cons, Nat.add_comm 2]
      refine ⟨'\\' :: c :: inside, rest, rfl, counted, ?_⟩
      rw [read, again, closed, counted]
  | case5 c tail notQuote notCut notEscape inductionHypothesis =>
      intro value length closed
      obtain ⟨inner, innerLength, reads, rfl⟩ := closed_of_cons closed
      obtain ⟨inside, rest, rfl, rfl, again⟩ := inductionHypothesis reads
      rw [reads] at closed
      have notBackslash := ne_backslash_of_not_paired notCut notEscape
      have counted : (c :: inside).length = 1 + inside.length := by
        rw [List.length_cons, Nat.add_comm]
      refine ⟨c :: inside, rest, rfl, counted, ?_⟩
      rw [read_cons notQuote notBackslash, again, closed, counted]

end RecordQuery.Quoted
