import RecordQuery.Expr.Basic
import RecordQuery.Token.Basic

/-!
# Reading an expression from tokens

A query is a disjunction of conjunctions of operands:

* operands next to each other are joined by AND, with or without the word between them;
* AND binds more tightly than OR, and NOT applies to the one operand behind it;
* parentheses hold a query of their own.

The reader goes through the tokens once. Its `State` holds, for each parenthesis that is still open and
for the whole query, the operands read so far; `State.step` takes up one token. So a token that
cannot stand at its place is found at that token. Open parentheses and pending negations together may
not exceed a limit, which is `nestingLimit` for queries.
-/

namespace RecordQuery

/-- The greatest number of open parentheses and pending negations at any place of a query. -/
def nestingLimit : Nat := 256

/-- Why tokens do not make an expression. -/
inductive GrammarFault where
  | emptyQuery
  | unexpected
  | afterExpression
  | keylessProperty
  | unclosedParen (position : Nat)
  | nestedTooDeeply
  deriving DecidableEq, Repr

/-- A fault in a row of tokens, with the lexeme at which it shows and the byte position of that
lexeme. -/
structure GrammarError where
  fault : GrammarFault
  found : Lexeme
  position : Nat
  deriving DecidableEq, Repr

def GrammarError.message (error : GrammarError) : String :=
  let found := error.found.describe
  match error.fault with
  | .emptyQuery => "Empty query"
  | .unexpected => s!"Unexpected {found}"
  | .afterExpression => s!"Unexpected {found} after complete expression"
  | .keylessProperty => s!"Property token without a key: {found}"
  | .unclosedParen position => s!"Expected ')' to close '(' at position {position}, found {found}"
  | .nestedTooDeeply => "Query nested too deeply"

namespace Expr

/-- What has been read between two parentheses, or outside of all. -/
structure Level where
  /-- The finished operands of OR, the last one first. -/
  disjuncts : List Expr := []
  /-- The finished operands since the last OR, the last one first. -/
  conjuncts : List Expr := []
  /-- The number of negations in front of the next operand. -/
  negations : Nat := 0
  deriving DecidableEq, Repr

namespace Level

def empty : Level := {}

/-- The disjuncts with the operands since the last OR joined to one more. -/
def closedDisjuncts (level : Level) : List Expr :=
  allOf level.conjuncts.reverse :: level.disjuncts

def expr (level : Level) : Expr :=
  anyOf level.closedDisjuncts.reverse

def operand (level : Level) (operand : Expr) : Level :=
  { level with conjuncts := negated level.negations operand :: level.conjuncts, negations := 0 }

def disjunction (level : Level) : Level :=
  { level with disjuncts := level.closedDisjuncts, conjuncts := [] }

def negation (level : Level) : Level :=
  { level with negations := level.negations + 1 }

end Level

/-- A parenthesis that is still open: its byte position and what was read before it at its level. -/
structure OpenParen where
  position : Nat
  outer : Level
  deriving DecidableEq, Repr

/-- How far the tokens have been read. -/
structure State where
  /-- What was read since the innermost open parenthesis. -/
  level : Level := .empty
  /-- The open parentheses, the innermost first. -/
  enclosing : List OpenParen := []
  /-- Whether an operand has to come next. -/
  wantsOperand : Bool := true
  /-- The number of open parentheses and pending negations. -/
  depth : Nat := 0
  deriving DecidableEq, Repr

namespace State

def initial : State := {}

def operand (state : State) (operand : Expr) : State :=
  { state with
    level := state.level.operand operand
    wantsOperand := false
    depth := state.depth - state.level.negations }

def negation (limit : Nat) (state : State) : Except GrammarFault State :=
  if state.depth < limit then
    .ok { state with
      level := state.level.negation
      wantsOperand := true
      depth := state.depth + 1 }
  else .error .nestedTooDeeply

def openParen (limit : Nat) (state : State) (position : Nat) : Except GrammarFault State :=
  if state.depth < limit then
    .ok {
      level := .empty
      enclosing := ⟨position, state.level⟩ :: state.enclosing
      wantsOperand := true
      depth := state.depth + 1 }
  else .error .nestedTooDeeply

/-- Takes up a closing parenthesis: what it closes becomes an operand of the level around it. -/
def closeParen (state : State) : Except GrammarFault State :=
  if state.wantsOperand then .error .unexpected
  else
    match state.enclosing with
    | [] => .error .afterExpression
    | paren :: enclosing =>
        let around : State := ⟨paren.outer, enclosing, true, state.depth - 1⟩
        .ok (around.operand state.level.expr)

def conjunction (state : State) : Except GrammarFault State :=
  if state.wantsOperand then .error .unexpected
  else .ok { state with wantsOperand := true }

def disjunction (state : State) : Except GrammarFault State :=
  if state.wantsOperand then .error .unexpected
  else .ok { state with level := state.level.disjunction, wantsOperand := true }

def symbol (limit : Nat) (state : State) (position : Nat) : Symbol → Except GrammarFault State
  | .and => state.conjunction
  | .or => state.disjunction
  | .not => state.negation limit
  | .openParen => state.openParen limit position
  | .closeParen => state.closeParen
  | .signal signal => .ok (state.operand (.signal signal))
  | .noSignal signal => .ok (state.operand (.not (.signal signal)))
  | .anySignal => .ok (state.operand .anySignal)

/-- The expression that has been read, when no token is left. -/
def finish (state : State) : Except GrammarFault Expr :=
  if state.wantsOperand then .error .unexpected
  else
    match state.enclosing with
    | [] => .ok state.level.expr
    | paren :: _ => .error (.unclosedParen paren.position)

/-- Takes up one token. The end marker ends a query and is never taken up. -/
def step (limit : Nat) (state : State) (token : Token) : Except GrammarFault State :=
  match token.lexeme with
  | .string value caseSensitive => .ok (state.operand (.string value caseSensitive))
  | .property (some key) value => .ok (state.operand (.property key value))
  | .property none _ => .error .keylessProperty
  | .symbol meaning _ => state.symbol limit token.position meaning
  | .endOfQuery => .error .unexpected

/-- Takes up tokens to the first end marker or the last token. A fault comes with the tokens from the
one on at which it shows. -/
def run (limit : Nat) (state : State) : List Token → Except (GrammarFault × List Token) Expr
  | [] => state.finish.mapError (·, [])
  | token :: rest =>
      if token.isEnd then state.finish.mapError (·, token :: rest)
      else
        match state.step limit token with
        | .ok following => following.run limit rest
        | .error fault => .error (fault, token :: rest)

end State

/-- The byte position behind the last token. -/
def endPosition (tokens : List Token) : Nat :=
  match tokens.getLast? with
  | some token => token.position + token.lexeme.text.utf8ByteSize
  | none => 0

/-- The error for a fault that shows at the first of the tokens `rest`, or behind all tokens. -/
def grammarError (tokens : List Token) (fault : GrammarFault) (rest : List Token) : GrammarError :=
  match rest with
  | token :: _ => ⟨fault, token.lexeme, token.position⟩
  | [] => ⟨fault, .endOfQuery, endPosition tokens⟩

/-- Whether no token stands in front of the end of the query. -/
def isEmptyQuery : List Token → Bool
  | [] => true
  | token :: _ => token.isEnd

/-- The expression that a row of tokens spells, up to the first end marker. -/
def ofTokens (tokens : List Token) : Except GrammarError Expr :=
  if isEmptyQuery tokens then .error (grammarError tokens .emptyQuery tokens)
  else
    (State.initial.run nestingLimit tokens).mapError fun (fault, rest) =>
      grammarError tokens fault rest

end Expr

end RecordQuery
