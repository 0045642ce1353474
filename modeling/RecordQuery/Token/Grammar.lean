import RecordQuery.Token.Scan

/-!
# The lexical grammar

How lexemes are written, as a relation. The source of a lexeme is the row of characters that spells it;
whether a row is a source depends on the text behind it, because words go on as long as they can and a
mark is one only where it stands alone.
-/

namespace RecordQuery.Lexeme

/-- The words that join operands and negate one, in lower case. -/
def connectives : List String :=
  ["and", "or", "not"]

/-- A word in front of this text does not go on in it. -/
def EndsWord (rest : List Char) : Prop :=
  ∀ c tail, rest = c :: tail → isWordPart c = false

/-- A row of word characters that is not empty. -/
structure IsWord (word : List Char) : Prop where
  nonempty : word ≠ []
  parts : ∀ c ∈ word, isWordPart c = true

/-- A bare word that is no key in front of this text. A `c` in front of a quote is no word. -/
structure IsBareWord (word rest : List Char) : Prop where
  starts : ∃ c tail, word = c :: tail ∧ isWordStart c = true
  parts : ∀ c ∈ word, isWordPart c = true
  ends : EndsWord rest
  no_colon : ∀ tail, rest ≠ ':' :: tail
  no_quote : word = ['c'] → ∀ tail, rest ≠ '"' :: tail

/-- An exclamation mark in front of this text negates what follows: it is no mark by itself, and none
together with what follows. -/
structure Negates (rest : List Char) : Prop where
  not_alone : standsAlone rest = false
  no_absence : ∀ (asked : Signal) (tail : List Char),
    rest = asked.sign :: tail → standsAlone tail = false
  no_mark : ∀ tail, rest ≠ '!' :: '!' :: tail

/-- The source of a lexeme in front of the rest of a text. -/
inductive IsSource : (source : List Char) → Lexeme → (rest : List Char) → Prop where
  | openParen {rest : List Char} : IsSource ['('] (.symbol .openParen "(") rest
  | closeParen {rest : List Char} : IsSource [')'] (.symbol .closeParen ")") rest
  | string {inside value rest : List Char}
      (closed : Quoted.read inside = .closed value inside.length) :
      IsSource ('"' :: inside) (.string (String.ofList value) false) rest
  | sensitiveString {inside value rest : List Char}
      (closed : Quoted.read inside = .closed value inside.length) :
      IsSource ('c' :: '"' :: inside) (.string (String.ofList value) true) rest
  | mark (asked : Signal) {rest : List Char} :
      IsSource asked.mark (.symbol (.signal asked) (String.ofList asked.mark)) rest
  | sign (asked : Signal) {rest : List Char} (alone : standsAlone rest = true) :
      IsSource [asked.sign] (.symbol (.signal asked) (String.ofList [asked.sign])) rest
  | absenceMark (asked : Signal) {rest : List Char} (alone : standsAlone rest = true) :
      IsSource asked.absenceMark
        (.symbol (.noSignal asked) (String.ofList asked.absenceMark)) rest
  | anySignal {rest : List Char} (alone : standsAlone rest = true) :
      IsSource ['*'] (.symbol .anySignal "*") rest
  | negation {rest : List Char} (negates : Negates rest) :
      IsSource ['!'] (.symbol .not "!") rest
  | status {letter : Char} {status : String} {rest : List Char}
      (known : statusOfLetter? letter = some status) :
      IsSource ['%', letter] (.property (some .status) status) rest
  | sigil (sigil : Sigil) {value rest : List Char} (word : IsWord value) (ends : EndsWord rest) :
      IsSource (sigil.sign :: value) (.property (some sigil.key) (String.ofList value)) rest
  | property {name value rest : List Char} {key : PropertyKey}
      (named : PropertyKey.ofWord? (String.ofList name) = some key)
      (word : IsWord value) (ends : EndsWord rest) :
      IsSource (name ++ ':' :: value) (.property (some key) (String.ofList value)) rest
  | quotedProperty {name inside value rest : List Char} {key : PropertyKey}
      (named : PropertyKey.ofWord? (String.ofList name) = some key)
      (closed : Quoted.read inside = .closed value inside.length) :
      IsSource (name ++ ':' :: '"' :: inside) (.property (some key) (String.ofList value)) rest
  | word {word rest : List Char} (bare : IsBareWord word rest) :
      IsSource word (ofWord (String.ofList word)) rest

end RecordQuery.Lexeme
