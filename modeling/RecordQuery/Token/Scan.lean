import RecordQuery.Text.Blank
import RecordQuery.Text.EditDistance
import RecordQuery.Token.Basic
import RecordQuery.Token.Quoted

/-!
# The first lexeme of a text

`scan` reads one lexeme at the head of a text that does not begin with a blank. It says what it found
and how many characters it used; a fault says what is wrong and how many characters stand before the
place where it is wrong. Positions in the whole query do not occur here.
-/

namespace RecordQuery

/-- A shorthand sign in front of the value of a property. -/
inductive Sigil where
  | project
  | ancestor
  | name
  deriving DecidableEq, Repr

namespace Sigil

def sign : Sigil → Char
  | project => '+'
  | ancestor => '^'
  | name => '&'

def key : Sigil → PropertyKey
  | project => .project
  | ancestor => .ancestor
  | name => .name

def operand : Sigil → String
  | project => "project name"
  | ancestor => "ancestor name"
  | name => "name"

end Sigil

inductive LexicalFault where
  | unexpectedCharacter (c : Char)
  | unterminatedString
  | unterminatedEscape
  | invalidStatusLetter (letter : Option Char)
  | missingOperand (sigil : Sigil)
  | unknownKey (word : String)
  | missingValue (key : PropertyKey)
  deriving DecidableEq, Repr

/-- The greatest edit distance at which a key is offered in place of a misspelled one. -/
def keySuggestionReach : Nat := 2

/-- The key nearest to a word that names none, if it is near enough; of several the first. -/
def PropertyKey.suggestion? (word : String) : Option PropertyKey :=
  Text.nearest? keySuggestionReach (Text.lowerAscii word) PropertyKey.word PropertyKey.all

def LexicalFault.message : LexicalFault → String
  | unexpectedCharacter c => s!"Unexpected character '{c}'"
  | unterminatedString => "Unterminated string"
  | unterminatedEscape => "Unterminated escape sequence"
  | invalidStatusLetter letter =>
      let shown := String.ofList ('%' :: letter.toList)
      s!"Invalid status shorthand '{shown}' (expected one of %d, %m, %r, %s, %w)"
  | missingOperand sigil => s!"Expected {sigil.operand} after '{sigil.sign}'"
  | unknownKey word =>
      match PropertyKey.suggestion? word with
      | some key => s!"Unknown property key '{word}' (did you mean '{key.word}'?)"
      | none =>
          s!"Unknown property key '{word}' (expected status, project, ancestor, name, or sibling)"
  | missingValue key => s!"Expected value after '{key.word}:'"

/-- The result of looking for a lexeme at the head of a text. -/
structure Scan where
  /-- The lexeme, or the fault with the number of characters in front of it. -/
  outcome : Except (LexicalFault × Nat) Lexeme
  /-- The number of characters that were used up. -/
  length : Nat

namespace Scan

def found (lexeme : Lexeme) (length : Nat) : Scan :=
  ⟨.ok lexeme, length⟩

/-- A fault behind `offset` characters, noticed after `length` of them. -/
def faulty (fault : LexicalFault) (offset length : Nat) : Scan :=
  ⟨.error (fault, offset), length⟩

/-- A symbol, spelled as it is. -/
def symbol (meaning : Symbol) (spelling : List Char) : Scan :=
  found (.symbol meaning (String.ofList spelling)) spelling.length

/-- A character that begins no lexeme; it is not used up. -/
def unexpected (c : Char) : Scan :=
  faulty (.unexpectedCharacter c) 0 0

end Scan

namespace Lexeme

def isWordStart (c : Char) : Bool :=
  Text.isAsciiLetter c || c == '_'

def isWordPart (c : Char) : Bool :=
  Text.isAsciiLetter c || Text.isAsciiDigit c || c == '_' || c == '-'

/-- Whether a mark in front of this text stands by itself: nothing, a blank or a closing
parenthesis follows. -/
def standsAlone : List Char → Bool
  | [] => true
  | c :: _ => Text.isBlank c || c == ')'

/-- The status that a letter after `%` stands for, in either case. -/
def statusOfLetter? (letter : Char) : Option String :=
  match letter.toLower with
  | 'd' => some "DRAFTED"
  | 'm' => some "MAILED"
  | 'r' => some "REVERTED"
  | 's' => some "SUBMITTED"
  | 'w' => some "WIP"
  | _ => none

/-- Reads the rest of a quoted string. The opening quote is the last of the `opening` characters
before `rest`. -/
def scanQuoted (opening : Nat) (rest : List Char) (lexeme : String → Lexeme) : Scan :=
  match Quoted.read rest with
  | .closed value length => .found (lexeme (String.ofList value)) (opening + length)
  | .unclosed => .faulty .unterminatedString (opening - 1) (opening + rest.length)
  | .cutEscape =>
      .faulty .unterminatedEscape (opening + rest.length - 1) (opening + rest.length)

/-- Reads what follows a first exclamation mark. -/
def scanExclamation : List Char → Scan
  | '!' :: '!' :: _ => .symbol (.signal .errorSuffix) ['!', '!', '!']
  | '!' :: rest =>
      if standsAlone rest then .symbol (.noSignal .errorSuffix) ['!', '!'] else .symbol .not ['!']
  | '@' :: rest =>
      if standsAlone rest then .symbol (.noSignal .runningAgent) ['!', '@'] else .symbol .not ['!']
  | '$' :: rest =>
      if standsAlone rest then .symbol (.noSignal .runningProcess) ['!', '$']
      else .symbol .not ['!']
  | rest =>
      if standsAlone rest then .symbol (.signal .errorSuffix) ['!'] else .symbol .not ['!']

/-- Reads what follows the sign of a signal, three times or by itself. -/
def scanSignal (signal : Signal) (rest : List Char) : Scan :=
  if [signal.sign, signal.sign].isPrefixOf rest then .symbol (.signal signal) signal.mark
  else if standsAlone rest then .symbol (.signal signal) [signal.sign]
  else .unexpected signal.sign

def scanStatusLetter : List Char → Scan
  | [] => .faulty (.invalidStatusLetter none) 0 1
  | letter :: _ =>
      match statusOfLetter? letter with
      | some status => .found (.property (some .status) status) 2
      | none => .faulty (.invalidStatusLetter (some letter)) 0 1

def scanSigil (sigil : Sigil) (rest : List Char) : Scan :=
  let value := rest.takeWhile isWordPart
  if value.isEmpty then .faulty (.missingOperand sigil) 0 1
  else .found (.property (some sigil.key) (String.ofList value)) (1 + value.length)

/-- Reads the value of a property; its key and the colon are the `keyLength` characters before. -/
def scanValue (key : PropertyKey) (keyLength : Nat) : List Char → Scan
  | '"' :: rest => scanQuoted (keyLength + 1) rest (.property (some key))
  | rest =>
      let value := rest.takeWhile isWordPart
      if value.isEmpty then .faulty (.missingValue key) keyLength keyLength
      else .found (.property (some key) (String.ofList value)) (keyLength + value.length)

/-- A bare word that is no key: a connective in any case of its letters, or a string. -/
def ofWord (word : String) : Lexeme :=
  match Text.lowerAscii word with
  | "and" => .symbol .and word
  | "or" => .symbol .or word
  | "not" => .symbol .not word
  | _ => .string word false

/-- Reads a bare word, and the value if the word is the key of a property. -/
def scanWord (text : List Char) : Scan :=
  let word := text.takeWhile isWordPart
  match text.dropWhile isWordPart with
  | ':' :: rest =>
      match PropertyKey.ofWord? (String.ofList word) with
      | some key => scanValue key (word.length + 1) rest
      | none => .faulty (.unknownKey (String.ofList word)) 0 word.length
  | _ => .found (ofWord (String.ofList word)) word.length

/-- Reads the lexeme at the head of a text that does not begin with a blank. -/
def scan (text : List Char) : Scan :=
  match text with
  | [] => .found .endOfQuery 0
  | '(' :: _ => .symbol .openParen ['(']
  | ')' :: _ => .symbol .closeParen [')']
  | '"' :: rest => scanQuoted 1 rest (.string · false)
  | 'c' :: '"' :: rest => scanQuoted 2 rest (.string · true)
  | '!' :: rest => scanExclamation rest
  | '@' :: rest => scanSignal .runningAgent rest
  | '$' :: rest => scanSignal .runningProcess rest
  | '%' :: rest => scanStatusLetter rest
  | '+' :: rest => scanSigil .project rest
  | '^' :: rest => scanSigil .ancestor rest
  | '&' :: rest => scanSigil .name rest
  | c :: rest =>
      if c = '*' ∧ standsAlone rest then .symbol .anySignal ['*']
      else if isWordStart c then scanWord text
      else .unexpected c

end Lexeme

end RecordQuery
