import RecordQuery.Text.CodeRanges
import RecordQuery.Text.Lines
import RecordQuery.Text.PrintableTable

/-!
# Texts spelled out

A debugging view of a text shows it between double quotes on one line, with an escape for each character
that could not be seen as it is.
-/

namespace RecordQuery.Text

/-- Whether a character shows by itself. -/
def isVisible (c : Char) : Bool :=
  !inRanges extendingMarkRanges c && !inRanges unprintableRanges c

def codeEscape (c : Char) : List Char :=
  ['\\', 'u', '\x7b'] ++ Nat.toDigits 16 c.toNat ++ ['\x7d']

def spellOut : Char → List Char
  | '\x00' => ['\\', '0']
  | '\t' => ['\\', 't']
  | '\r' => ['\\', 'r']
  | '\n' => ['\\', 'n']
  | '"' => ['\\', '"']
  | '\\' => ['\\', '\\']
  | c => if isVisible c then [c] else codeEscape c

def escaped (text : List Char) : List Char :=
  '"' :: (text.flatMap spellOut ++ ['"'])

theorem lineFeed_not_mem_codeEscape (c : Char) : '\n' ∉ codeEscape c := by
  have digits : '\n' ∉ Nat.toDigits 16 c.toNat :=
    lineFeed_not_mem_toDigits (by decide) _
  simp [codeEscape, digits]

theorem lineFeed_not_mem_spellOut (c : Char) : '\n' ∉ spellOut c := by
  unfold spellOut
  split
  case h_7 _ _ _ notFeed _ _ =>
    split
    · exact fun member => notFeed (List.mem_singleton.mp member).symm
    · exact lineFeed_not_mem_codeEscape c
  all_goals decide

/-- A text that is spelled out stays on one line. -/
theorem lineFeed_not_mem_escaped (text : List Char) : '\n' ∉ escaped text := by
  simp [escaped, lineFeed_not_mem_spellOut]

end RecordQuery.Text
