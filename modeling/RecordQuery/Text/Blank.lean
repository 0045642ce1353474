/-!
# Blank characters

The characters of the Unicode property `White_Space`, and the removal of blanks at the ends of a
text.
-/

namespace RecordQuery.Text

/-- The blank characters outside the two ranges that `isBlank` tests directly. -/
def scatteredBlanks : List Nat :=
  [0x20, 0x85, 0xA0, 0x1680, 0x2028, 0x2029, 0x202F, 0x205F, 0x3000]

/-- Whether a character has the Unicode property `White_Space`. -/
def isBlank (c : Char) : Bool :=
  let code := c.toNat
  (0x09 ≤ code && code ≤ 0x0D) || (0x2000 ≤ code && code ≤ 0x200A) || scatteredBlanks.contains code

def trimStart (text : List Char) : List Char :=
  text.dropWhile isBlank

def trimEnd (text : List Char) : List Char :=
  (text.reverse.dropWhile isBlank).reverse

def trim (text : List Char) : List Char :=
  trimEnd (trimStart text)

/-- What is left after dropping blanks does not begin with one. -/
theorem isBlank_head_trimStart {text : List Char} {c : Char} {rest : List Char}
    (equality : trimStart text = c :: rest) : isBlank c = false := by
  induction text with
  | nil => simp [trimStart] at equality
  | cons head tail inductionHypothesis =>
      by_cases blank : isBlank head = true
      · exact inductionHypothesis (by simpa [trimStart, List.dropWhile_cons, blank] using equality)
      · have : head = c := by
          simp only [trimStart, List.dropWhile_cons, blank] at equality
          exact (List.cons.inj equality).1
        simpa [this] using blank

/-- A text without blanks at its ends. -/
structure IsTrimmed (text : List Char) : Prop where
  start : ∀ c ∈ text.head?, isBlank c = false
  ending : ∀ c ∈ text.getLast?, isBlank c = false

section Trimming

variable {text : List Char}

theorem trimStart_of_start (start : ∀ c ∈ text.head?, isBlank c = false) :
    trimStart text = text := by
  cases text with
  | nil => rfl
  | cons c rest =>
      have notBlank := start c rfl
      rw [trimStart, List.dropWhile_cons, notBlank]
      rfl

theorem trimEnd_eq_reverse (text : List Char) :
    trimEnd text = (trimStart text.reverse).reverse :=
  rfl

theorem trimEnd_of_ending (ending : ∀ c ∈ text.getLast?, isBlank c = false) :
    trimEnd text = text := by
  rw [← List.head?_reverse] at ending
  rw [trimEnd_eq_reverse, trimStart_of_start ending, List.reverse_reverse]

/-- Blanks at the end of a text are dropped from its front only if nothing else stands behind it. -/
theorem trimEnd_append (front back : List Char) :
    trimEnd (front ++ back) =
      if trimEnd back = [] then trimEnd front else front ++ trimEnd back := by
  unfold trimEnd
  rw [List.reverse_append, List.dropWhile_append]
  by_cases nothing : back.reverse.dropWhile isBlank = []
  · simp [nothing]
  · simp [nothing]

theorem trim_of_isTrimmed (trimmed : IsTrimmed text) : trim text = text := by
  rw [trim, trimStart_of_start trimmed.start, trimEnd_of_ending trimmed.ending]

theorem start_trimStart (text : List Char) :
    ∀ c ∈ (trimStart text).head?, isBlank c = false := by
  intro c first
  obtain ⟨rest, equality⟩ := List.head?_eq_some_iff.mp first
  exact isBlank_head_trimStart equality

theorem trimEnd_prefix_self (text : List Char) : trimEnd text <+: text := by
  have ending : trimStart text.reverse <:+ text.reverse :=
    List.dropWhile_suffix _
  rw [trimEnd_eq_reverse, ← List.reverse_suffix, List.reverse_reverse]
  exact ending

theorem trim_infix (text : List Char) : trim text <:+: text :=
  (trimEnd_prefix_self (trimStart text)).isInfix.trans
    (List.dropWhile_suffix _).isInfix

theorem isTrimmed_trim (text : List Char) : IsTrimmed (trim text) := by
  constructor
  · intro c first
    obtain ⟨rest, equality⟩ := List.head?_eq_some_iff.mp first
    obtain ⟨behind, whole⟩ := trimEnd_prefix_self (trimStart text)
    have sameFirst : (trimStart text).head? = some c := by
      rw [← whole, ← trim, equality]
      rfl
    exact start_trimStart text c sameFirst
  · intro c last
    rw [trim, trimEnd_eq_reverse, List.getLast?_reverse] at last
    exact start_trimStart _ c last

end Trimming

end RecordQuery.Text
