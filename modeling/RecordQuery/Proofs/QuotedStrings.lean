import RecordQuery.Proofs.Sources

/-!
# Quoted strings

A quoted string is read piece by piece: each backslash belongs to the character behind it, and the first
quote that no backslash takes ends the string. Without such a quote the fault is the last backslash, if
nothing stands behind it, or else the opening quote. What is written for a value is read as this value,
whatever follows.
-/

namespace RecordQuery

namespace Quoted

/-! ## Pieces -/

/-- A piece of a text in which each backslash belongs to the character behind it: a character by itself,
a backslash and a character, or a backslash behind which the text ends. -/
inductive Piece where
  | single (c : Char)
  | pair (escaped : Char)
  | cut
  deriving DecidableEq, Repr

def Piece.source : Piece → List Char
  | single c => [c]
  | pair escaped => ['\\', escaped]
  | cut => ['\\']

/-- What a piece stands for; a backslash at the end stands for nothing. -/
def Piece.value : Piece → List Char
  | single c => [c]
  | pair escaped => [meaning escaped]
  | cut => []

/-- The pieces of a text, from left to right. -/
def pieces : List Char → List Piece
  | [] => []
  | ['\\'] => [.cut]
  | '\\' :: c :: rest => .pair c :: pieces rest
  | c :: rest => .single c :: pieces rest

section Pieces

variable {text : List Char} {before behind : List Piece}

theorem flatMap_source_pieces (text : List Char) :
    (pieces text).flatMap Piece.source = text := by
  fun_induction pieces text with
  | case1 => rfl
  | case2 => rfl
  | case3 c rest inductionHypothesis =>
      simp [Piece.source, inductionHypothesis]
  | case4 c rest notCut notEscape inductionHypothesis =>
      simp [Piece.source, inductionHypothesis]

/-- A backslash at the end is the last piece. -/
theorem exists_append_cut :
    Piece.cut ∈ pieces text → ∃ before, pieces text = before ++ [.cut] := by
  fun_induction pieces text with
  | case1 => simp
  | case2 => exact fun _ => ⟨[], rfl⟩
  | case3 c rest inductionHypothesis =>
      intro member
      obtain ⟨before, divided⟩ := inductionHypothesis (by simpa using member)
      exact ⟨.pair c :: before, by rw [divided]; rfl⟩
  | case4 c rest notCut notEscape inductionHypothesis =>
      intro member
      obtain ⟨before, divided⟩ := inductionHypothesis (by simpa using member)
      exact ⟨.single c :: before, by rw [divided]; rfl⟩

/-- The first quote by itself closes the string. -/
theorem read_of_quote (divided : pieces text = before ++ .single '"' :: behind)
    (first : .single '"' ∉ before) :
    read text = .closed (before.flatMap Piece.value)
      ((before.flatMap Piece.source).length + 1) := by
  fun_induction pieces text generalizing before with
  | case1 => simp at divided
  | case2 =>
      rcases List.append_eq_cons_iff.mp divided.symm with
        ⟨_, isCut⟩ | ⟨others, _, none⟩
      · cases isCut
      · simp at none
  | case3 c rest inductionHypothesis =>
      rcases List.append_eq_cons_iff.mp divided.symm with
        ⟨_, isPair⟩ | ⟨others, rfl, dividedBehind⟩
      · cases isPair
      · have firstBehind : .single '"' ∉ others := by simpa using first
        rw [read, inductionHypothesis dividedBehind firstBehind]
        simp [Reading.cons, Piece.value, Piece.source]
        omega
  | case4 c rest notCut notEscape inductionHypothesis =>
      rcases List.append_eq_cons_iff.mp divided.symm with
        ⟨rfl, isQuote⟩ | ⟨others, rfl, dividedBehind⟩
      · cases isQuote
        rfl
      · simp only [List.mem_cons, not_or] at first
        obtain ⟨notQuote, firstBehind⟩ := first
        have notBackslash := ne_backslash_of_not_paired notCut notEscape
        rw [read_cons (by simpa [eq_comm] using notQuote) notBackslash,
          inductionHypothesis dividedBehind firstBehind]
        simp [Reading.cons, Piece.value, Piece.source]
        omega

/-- Without a quote by itself the string is not closed. -/
theorem read_of_no_quote (noQuote : .single '"' ∉ pieces text) :
    read text = if .cut ∈ pieces text then .cutEscape else .unclosed := by
  fun_induction pieces text with
  | case1 => rfl
  | case2 => rfl
  | case3 c rest inductionHypothesis =>
      have noQuoteBehind : .single '"' ∉ pieces rest := by simpa using noQuote
      rw [read, inductionHypothesis noQuoteBehind]
      by_cases cut : Piece.cut ∈ pieces rest
      · simp [cut, Reading.cons]
      · simp [cut, Reading.cons]
  | case4 c rest notCut notEscape inductionHypothesis =>
      simp only [List.mem_cons, not_or] at noQuote
      obtain ⟨notQuote, noQuoteBehind⟩ := noQuote
      have notBackslash := ne_backslash_of_not_paired notCut notEscape
      rw [read_cons (by simpa [eq_comm] using notQuote) notBackslash,
        inductionHypothesis noQuoteBehind]
      by_cases cut : Piece.cut ∈ pieces rest
      · simp [cut, Reading.cons]
      · simp [cut, Reading.cons]

end Pieces

end Quoted

namespace Lexeme

/-! ## Openings -/

/-- What can stand in front of an opening quote, and the lexeme that a quoted value makes there. -/
inductive Opening : List Char → (String → Lexeme) → Prop where
  | string : Opening [] (.string · false)
  | sensitiveString : Opening ['c'] (.string · true)
  | property {name : List Char} {key : PropertyKey}
      (named : PropertyKey.ofWord? (String.ofList name) = some key) :
      Opening (name ++ [':']) (.property (some key))

section Openings

variable {head : List Char} {make : String → Lexeme}

theorem Opening.scan_eq (opening : Opening head make) (inside : List Char) :
    scan (head ++ '"' :: inside) =
      scanQuoted (head.length + 1) inside make := by
  cases opening with
  | string => rfl
  | sensitiveString => rfl
  | property named =>
      rw [List.append_assoc, List.singleton_append, scan_named named,
        List.length_append]
      rfl

theorem Opening.exists_cons (opening : Opening head make)
    (inside : List Char) :
    ∃ c tail, head ++ '"' :: inside = c :: tail ∧ Text.isBlank c = false := by
  cases opening with
  | string => exact ⟨_, _, rfl, by decide⟩
  | sensitiveString => exact ⟨_, _, rfl, by decide⟩
  | property named =>
      rw [List.append_assoc]
      exact exists_cons_of_named named

end Openings

end Lexeme

namespace Cursor

/-! ## Reading a quoted string -/

section Quoted

open Quoted (Piece pieces)

variable {cursor : Cursor} {head inside : List Char} {make : String → Lexeme}

/-- In front of the head of a quoted string there are no blanks to skip. -/
theorem skipBlanks_of_opening (opening : Lexeme.Opening head make)
    (stands : cursor.rest = head ++ '"' :: inside) :
    cursor.skipBlanks = cursor := by
  obtain ⟨c, tail, begins, notBlank⟩ := opening.exists_cons inside
  exact skipBlanks_of_not_blank (stands.trans begins) notBlank

theorem scan_of_opening (opening : Lexeme.Opening head make)
    (stands : cursor.rest = head ++ '"' :: inside) :
    Lexeme.scan cursor.rest =
      Lexeme.scanQuoted (head.length + 1) inside make := by
  rw [stands, opening.scan_eq]

theorem next_of_quote (opening : Lexeme.Opening head make)
    (stands : cursor.rest = head ++ '"' :: inside) {before behind : List Piece}
    (divided : pieces inside = before ++ .single '"' :: behind)
    (first : .single '"' ∉ before) :
    cursor.next =
      (.ok ⟨make (String.ofList (before.flatMap Piece.value)), cursor.position⟩,
        ⟨cursor.position + Text.byteLength
            (head ++ '"' :: (before.flatMap Piece.source ++ ['"'])),
          behind.flatMap Piece.source⟩) := by
  have text := Quoted.flatMap_source_pieces inside
  rw [divided, List.flatMap_append, List.flatMap_cons] at text
  have begins : cursor.rest =
      (head ++ '"' :: (before.flatMap Piece.source ++ ['"'])) ++
        behind.flatMap Piece.source := by
    rw [stands, ← text]
    simp [Piece.source]
  have found := scan_of_opening opening stands
  rw [Lexeme.scanQuoted, Quoted.read_of_quote divided first] at found
  rw [next_of_found (skipBlanks_of_opening opening stands) found,
    ← advance_of_append begins]
  simp only [List.length_append, List.length_cons, List.length_nil]
  congr 2
  omega

theorem next_of_cut (opening : Lexeme.Opening head make)
    (stands : cursor.rest = head ++ '"' :: inside) {before : List Piece}
    (divided : pieces inside = before ++ [.cut])
    (noQuote : .single '"' ∉ pieces inside) :
    cursor.next.1 =
      .error ⟨.unterminatedEscape, cursor.position +
        Text.byteLength (head ++ '"' :: before.flatMap Piece.source)⟩ := by
  have text := Quoted.flatMap_source_pieces inside
  rw [divided, List.flatMap_append] at text
  have cut : .cut ∈ pieces inside := by simp [divided]
  have begins : cursor.rest =
      (head ++ '"' :: before.flatMap Piece.source) ++ ['\\'] := by
    rw [stands, ← text]
    simp [Piece.source]
  have counted : head.length + 1 + inside.length - 1 =
      (head ++ '"' :: before.flatMap Piece.source).length := by
    rw [← text]
    simp [Piece.source]
    omega
  have failed := scan_of_opening opening stands
  rw [Lexeme.scanQuoted, Quoted.read_of_no_quote noQuote, if_pos cut] at failed
  rw [next_of_faulty (skipBlanks_of_opening opening stands) failed, counted,
    advance_of_append begins]

theorem next_of_unclosed (opening : Lexeme.Opening head make)
    (stands : cursor.rest = head ++ '"' :: inside)
    (noQuote : .single '"' ∉ pieces inside) (noCut : .cut ∉ pieces inside) :
    cursor.next.1 =
      .error ⟨.unterminatedString, cursor.position + Text.byteLength head⟩ := by
  have failed := scan_of_opening opening stands
  rw [Lexeme.scanQuoted, Quoted.read_of_no_quote noQuote, if_neg noCut]
    at failed
  rw [next_of_faulty (skipBlanks_of_opening opening stands) failed,
    Nat.add_sub_cancel, advance_of_append stands]

theorem exists_error_of_no_quote (opening : Lexeme.Opening head make)
    (stands : cursor.rest = head ++ '"' :: inside)
    (noQuote : .single '"' ∉ pieces inside) :
    ∃ error, cursor.next.1 = .error error ∧
      (∀ before, pieces inside = before ++ [.cut] →
        error.fault.message = "Unterminated escape sequence" ∧
        error.position = cursor.position +
          Text.byteLength (head ++ '"' :: before.flatMap Piece.source)) ∧
      (.cut ∉ pieces inside →
        error.fault.message = "Unterminated string" ∧
        error.position = cursor.position + Text.byteLength head) := by
  by_cases cut : Piece.cut ∈ pieces inside
  · obtain ⟨before, divided⟩ := Quoted.exists_append_cut cut
    refine ⟨_, next_of_cut opening stands divided noQuote, ?_,
      fun noCut => absurd cut noCut⟩
    intro other dividedAgain
    rw [divided] at dividedAgain
    obtain ⟨rfl, _⟩ := List.append_inj' dividedAgain rfl
    exact ⟨rfl, rfl⟩
  · refine ⟨_, next_of_unclosed opening stands noQuote cut, ?_,
      fun _ => ⟨rfl, rfl⟩⟩
    intro before divided
    exact absurd (by simp [divided]) cut

theorem next_of_write (opening : Lexeme.Opening head make)
    {value rest : List Char}
    (stands : cursor.rest = head ++ (Quoted.write value ++ rest)) :
    cursor.next =
      (.ok ⟨make (String.ofList value), cursor.position⟩,
        ⟨cursor.position + Text.byteLength (head ++ Quoted.write value),
          rest⟩) := by
  have begins : cursor.rest = (head ++ Quoted.write value) ++ rest := by
    rw [stands, List.append_assoc]
  have opened : cursor.rest = head ++
      '"' :: ((value.flatMap Quoted.spell ++ ['"']) ++ rest) := stands
  have closed := Quoted.read_write_append value []
  have found := (scan_of_opening opening opened).trans
    (Lexeme.scanQuoted_of_closed closed rest make)
  rw [next_of_found (skipBlanks_of_opening opening stands) found,
    ← advance_of_append begins]
  simp only [Quoted.write, List.length_append, List.length_cons]
  congr 2
  omega

/-- A quoted string, at each place where one can stand, is closed by the first quote that no backslash in
front of it takes. It is read as what the pieces before this quote stand for, and reading stops behind the
quote. If there is none, the fault is a backslash at the end, or the opening quote. What is written for a
value is read as the value, and what follows is left. -/
theorem next_of_quoted (opening : Lexeme.Opening head make)
    (stands : cursor.rest = head ++ '"' :: inside) :
    ((∃ token, cursor.next.1 = .ok token) ↔ .single '"' ∈ pieces inside) ∧
    (∀ before behind, pieces inside = before ++ .single '"' :: behind →
      .single '"' ∉ before →
        cursor.next =
          (.ok ⟨make (String.ofList (before.flatMap Piece.value)),
              cursor.position⟩,
            ⟨cursor.position + Text.byteLength
                (head ++ '"' :: (before.flatMap Piece.source ++ ['"'])),
              behind.flatMap Piece.source⟩)) ∧
    (.single '"' ∉ pieces inside →
      ∃ error, cursor.next.1 = .error error ∧
        (∀ before, pieces inside = before ++ [.cut] →
          error.fault.message = "Unterminated escape sequence" ∧
          error.position = cursor.position +
            Text.byteLength (head ++ '"' :: before.flatMap Piece.source)) ∧
        (.cut ∉ pieces inside →
          error.fault.message = "Unterminated string" ∧
          error.position = cursor.position + Text.byteLength head)) ∧
    ∀ value rest, '"' :: inside = Quoted.write value ++ rest →
      cursor.next =
        (.ok ⟨make (String.ofList value), cursor.position⟩,
          ⟨cursor.position + Text.byteLength (head ++ Quoted.write value),
            rest⟩) := by
  refine ⟨⟨?_, ?_⟩, fun before behind => next_of_quote opening stands,
    exists_error_of_no_quote opening stands, ?_⟩
  · rintro ⟨token, read⟩
    by_cases quote : .single '"' ∈ pieces inside
    · exact quote
    · obtain ⟨error, shown, _⟩ := exists_error_of_no_quote opening stands quote
      rw [read] at shown
      cases shown
  · intro quote
    obtain ⟨before, behind, divided, first⟩ := List.eq_append_cons_of_mem quote
    rw [next_of_quote opening stands divided first]
    exact ⟨_, rfl⟩
  · intro value rest written
    rw [written] at stands
    exact next_of_write opening stands

/-- An escaped quote does not close the value of a property. A backslash at the end is a fault at its own
byte, behind the two bytes of the letter. -/
theorem next_of_quoted_escapes :
    (Lexeme.Opening ("name".toList ++ [':']) (.property (some .name)) ∧
      (Cursor.mk 4 "name:\"a\\\"\\n\" b".toList).next =
        (.ok ⟨.property (some .name) "a\"\n", 4⟩, ⟨16, " b".toList⟩)) ∧
    (Lexeme.Opening [] (.string · false) ∧
      ∃ error, (Cursor.start "\"é\\".toList).next.1 = .error error ∧
        error.fault.message = "Unterminated escape sequence" ∧
        error.position = 3) := by
  have named : Lexeme.Opening ("name".toList ++ [':']) (.property (some .name)) :=
    .property (by decide)
  have stands : (Cursor.mk 4 "name:\"a\\\"\\n\" b".toList).rest =
      ("name".toList ++ [':']) ++ '"' :: "a\\\"\\n\" b".toList := rfl
  have closed := (next_of_quoted named stands).2.1
    [.single 'a', .pair '"', .pair 'n'] [.single ' ', .single 'b'] rfl (by decide)
  have cutStands : (start "\"é\\".toList).rest = [] ++ '"' :: "é\\".toList := rfl
  obtain ⟨error, shown, cut, _⟩ :=
    (next_of_quoted .string cutStands).2.2.1 (by decide)
  exact ⟨⟨named, closed⟩, .string, error, shown, cut [.single 'é'] rfl⟩

end Quoted

end Cursor

end RecordQuery
