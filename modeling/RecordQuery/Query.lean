import RecordQuery.Expr.Canonical
import RecordQuery.Expr.Parser
import RecordQuery.Token.Lexer

/-!
# Queries

A query is a line of text that spells an expression. What is wrong with a text that spells none is a
`QueryError`; its `Diagnosis` is what users see of it: the stage that failed, a message and a byte
position, which `Diagnosis.caret` points at.
-/

namespace RecordQuery

inductive QueryError where
  | lexical (error : LexicalError)
  | grammar (error : GrammarError)
  deriving DecidableEq, Repr

def Expr.ofText (query : String) : Except QueryError Expr := do
  let tokens ← (Token.ofText query).mapError .lexical
  (Expr.ofTokens tokens).mapError .grammar

/-- The part of the reading of a query that can fail. -/
inductive Diagnosis.Stage where
  | tokenize
  | parse
  deriving DecidableEq, Repr

/-- What is shown of an error in a query. -/
structure Diagnosis where
  stage : Diagnosis.Stage
  message : String
  /-- The byte position that the message is about. -/
  position : Nat
  deriving DecidableEq, Repr

def QueryError.diagnosis : QueryError → Diagnosis
  | lexical error => ⟨.tokenize, error.fault.message, error.position⟩
  | grammar error => ⟨.parse, error.message, error.position⟩

namespace Diagnosis

def Stage.word : Stage → String
  | tokenize => "tokenize"
  | parse => "parse"

/-- The whole message, on one line. -/
def display (diagnosis : Diagnosis) : String :=
  s!"{diagnosis.stage.word} error: {diagnosis.message} at position {diagnosis.position}"

/-- The number of characters of a text that begin before a byte position. -/
def charactersBefore (position : Nat) : List Char → Nat
  | [] => 0
  | c :: rest => if position = 0 then 0 else 1 + charactersBefore (position - c.utf8Size) rest

/-- The query, and below it a caret, indented by the number of characters in front of the position. -/
def caret (diagnosis : Diagnosis) (query : String) : String :=
  let column := charactersBefore diagnosis.position query.toList
  query ++ String.ofList ('\n' :: List.replicate column ' ' ++ ['^'])

end Diagnosis

end RecordQuery
