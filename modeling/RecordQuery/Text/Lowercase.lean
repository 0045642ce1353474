import RecordQuery.Text.CaseTable
import RecordQuery.Text.CodeRanges

/-!
# Small letters

Texts are compared without regard to case by their lowercase forms. The lowercase form follows the full
mapping of Unicode, which is not quite one character at a time: a dotted capital I becomes two
characters, and a capital sigma becomes the final form of the small letter at the end of a word.
-/

namespace RecordQuery.Text

def lowerLetter (c : Char) : List Char :=
  if c.toNat < 0x80 then [c.toLower]
  else if c = 'İ' then ['i', '\u0307']
  else
    let code := c.toNat
    match caseRuns.find? fun run =>
      run.first ≤ code && code ≤ run.last && (code - run.first) % run.step == 0 with
    | some run => [Char.ofNat (run.small + (code - run.first))]
    | none => [c]

/-- Whether the first character that is not case-ignorable is cased. -/
def meetsCased (text : List Char) : Bool :=
  match text.dropWhile (inRanges caseIgnorableRanges) with
  | c :: _ => inRanges casedRanges c
  | [] => false

/-- The lowercase form of a text behind the characters `left`, the last of which comes first. A sigma
is final if a cased character stands before it and none behind it. -/
def lowerBehind (left : List Char) : List Char → List Char
  | [] => []
  | c :: rest =>
      let small :=
        if c = 'Σ' then [if meetsCased left && !meetsCased rest then 'ς' else 'σ']
        else lowerLetter c
      small ++ lowerBehind (c :: left) rest

def lower (text : String) : String :=
  String.ofList (lowerBehind [] text.toList)

end RecordQuery.Text
