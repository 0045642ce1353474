import RecordQuery.PropertyKey
import RecordQuery.Signal

/-!
# Tokens

A query is a row of lexemes: strings, properties, and symbols, followed by the end of the query. A
token is a lexeme together with the byte position at which it begins.
-/

namespace RecordQuery

/-- What a lexeme without a value of its own stands for. -/
inductive Symbol where
  | and
  | or
  | not
  | openParen
  | closeParen
  | signal (signal : Signal)
  | noSignal (signal : Signal)
  | anySignal
  deriving DecidableEq, Repr

def Symbol.kindName : Symbol → String
  | and => "And"
  | or => "Or"
  | not => "Not"
  | openParen => "LParen"
  | closeParen => "RParen"
  | signal .errorSuffix => "ErrorSuffix"
  | signal .runningAgent => "RunningAgent"
  | signal .runningProcess => "RunningProcess"
  | noSignal .errorSuffix => "NotErrorSuffix"
  | noSignal .runningAgent => "NotRunningAgent"
  | noSignal .runningProcess => "NotRunningProcess"
  | anySignal => "AnySpecial"

/-- The smallest parts of a query that have a meaning. A symbol keeps its spelling, for messages. A
property lexeme made by hand may lack its key. -/
inductive Lexeme where
  | string (value : String) (caseSensitive : Bool)
  | property (key : Option PropertyKey) (value : String)
  | symbol (meaning : Symbol) (spelling : String)
  | endOfQuery
  deriving DecidableEq, Repr

namespace Lexeme

def isEnd : Lexeme → Bool
  | endOfQuery => true
  | _ => false

def kindName : Lexeme → String
  | string _ _ => "String"
  | property _ _ => "Property"
  | symbol meaning _ => meaning.kindName
  | endOfQuery => "Eof"

/-- The value of a string or a property, the spelling of a symbol. -/
def text : Lexeme → String
  | string value _ => value
  | property _ value => value
  | symbol _ spelling => spelling
  | endOfQuery => ""

def caseSensitive : Lexeme → Bool
  | string _ caseSensitive => caseSensitive
  | _ => false

def key? : Lexeme → Option PropertyKey
  | property key _ => key
  | _ => none

def describe : Lexeme → String
  | string value _ => "string \"" ++ value ++ "\""
  | property (some key) value => "property '" ++ key.word ++ ":" ++ value ++ "'"
  | property none value => "property '" ++ value ++ "'"
  | symbol _ spelling => "'" ++ spelling ++ "'"
  | endOfQuery => "end of query"

end Lexeme

/-- A lexeme and the byte position at which it begins. -/
structure Token where
  lexeme : Lexeme
  position : Nat
  deriving DecidableEq, Repr

def Token.isEnd (token : Token) : Bool :=
  token.lexeme.isEnd

end RecordQuery
