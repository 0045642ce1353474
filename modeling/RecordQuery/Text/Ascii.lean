/-!
# ASCII letters

Property keys, keywords and status values are compared without regard to the case of ASCII letters;
all other characters are compared as they are.
-/

namespace RecordQuery.Text

def isAsciiLetter (c : Char) : Bool :=
  ('a' ≤ c && c ≤ 'z') || ('A' ≤ c && c ≤ 'Z')

def isAsciiDigit (c : Char) : Bool :=
  '0' ≤ c && c ≤ '9'

def lowerAscii (text : String) : String :=
  String.ofList (text.toList.map Char.toLower)

def sameUpToAsciiCase (left right : String) : Bool :=
  lowerAscii left == lowerAscii right

section Lowering

variable {c : Char}

theorem toLower_of_not_capital (notCapital : ¬ (0x41 ≤ c.toNat ∧ c.toNat ≤ 0x5A)) :
    c.toLower = c :=
  dif_neg notCapital

theorem toNat_toLower_of_capital (capital : 0x41 ≤ c.toNat ∧ c.toNat ≤ 0x5A) :
    c.toLower.toNat = c.toNat + 0x20 := by
  have bounds : c.val ≥ 'A'.val ∧ c.val ≤ 'Z'.val := capital
  have last : c.val.toNat ≤ 0x5A := capital.2
  have moved : c.toLower.val = c.val + 0x20 :=
    congrArg Char.val (dif_pos bounds)
  change c.toLower.val.toNat = c.val.toNat + 0x20
  rw [moved, UInt32.toNat_add]
  change (c.val.toNat + 0x20) % 0x100000000 = c.val.toNat + 0x20
  omega

/-- No character but a letter has a lowercase form that is one. -/
theorem isAsciiLetter_of_toLower (letter : isAsciiLetter c.toLower = true) :
    isAsciiLetter c = true := by
  by_cases capital : 0x41 ≤ c.toNat ∧ c.toNat ≤ 0x5A
  · have bounds : 'A' ≤ c ∧ c ≤ 'Z' := capital
    simp [isAsciiLetter, bounds]
  · rw [toLower_of_not_capital capital] at letter
    exact letter

/-- A text is in letters if its lowercase form is. -/
theorem isAsciiLetter_of_lowerAscii {text : List Char}
    (letters : (lowerAscii (String.ofList text)).toList.all isAsciiLetter = true) :
    ∀ c ∈ text, isAsciiLetter c = true := by
  rw [lowerAscii, String.toList_ofList, String.toList_ofList, List.all_eq_true] at letters
  exact fun c member => isAsciiLetter_of_toLower (letters c.toLower (List.mem_map_of_mem member))

end Lowering

end RecordQuery.Text
