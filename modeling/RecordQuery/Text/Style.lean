/-!
# Terminal styles

A style is switched on by an escape sequence before a text and off by another one behind it. Styles nest;
the one applied last stands outermost.
-/

namespace RecordQuery.Text

inductive Style where
  | bold
  | dimmed
  | red
  | green
  | yellow
  | blue
  | cyan
  deriving DecidableEq, Repr

namespace Style

def onCode : Style → List Char
  | bold => ['1']
  | dimmed => ['2']
  | red => ['3', '1']
  | green => ['3', '2']
  | yellow => ['3', '3']
  | blue => ['3', '4']
  | cyan => ['3', '6']

/-- The number that switches a style off: a colour gives way to the default colour, the other styles to
no style at all. -/
def offCode : Style → List Char
  | bold => ['0']
  | dimmed => ['0']
  | _ => ['3', '9']

def sequence (code : List Char) : List Char :=
  '\x1b' :: '[' :: (code ++ ['m'])

def apply (style : Style) (text : List Char) : List Char :=
  sequence style.onCode ++ text ++ sequence style.offCode

/-- A text in a style if colours are wanted, else the text alone. -/
def applyIf (colors : Bool) (style : Style) (text : List Char) : List Char :=
  if colors then style.apply text else text

end Style

end RecordQuery.Text
