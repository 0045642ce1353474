import RecordQuery.Expr.Parser

/-!
# The grammar of queries

What rows of lexemes spell, as relations. Each relation also gives the nesting of the row: the greatest
number of parentheses and negations around one of its lexemes. A query may not nest deeper than
`nestingLimit`.
-/

namespace RecordQuery.Expr

/-- A lexeme that spells an expression by itself. -/
inductive IsAtom : Lexeme → Expr → Prop where
  | string (value : String) (caseSensitive : Bool) :
      IsAtom (.string value caseSensitive) (string value caseSensitive)
  | property (key : PropertyKey) (value : String) :
      IsAtom (.property (some key) value) (property key value)
  | signal (asked : Signal) (spelling : String) :
      IsAtom (.symbol (.signal asked) spelling) (signal asked)
  | noSignal (asked : Signal) (spelling : String) :
      IsAtom (.symbol (.noSignal asked) spelling) (not (signal asked))
  | anySignal (spelling : String) : IsAtom (.symbol .anySignal spelling) anySignal

mutual

/-- A row of lexemes that spells one operand: an atom, a query in parentheses, or either under
negations. -/
inductive Operand : List Lexeme → Expr → (nesting : Nat) → Prop where
  | atom {lexeme : Lexeme} {expr : Expr} (atom : IsAtom lexeme expr) : Operand [lexeme] expr 0
  | negation {lexemes : List Lexeme} {expr : Expr} {nesting : Nat} (spelling : String)
      (operand : Operand lexemes expr nesting) :
      Operand (.symbol .not spelling :: lexemes) (not expr) (nesting + 1)
  | paren {lexemes : List Lexeme} {exprs : List Expr} {nesting : Nat} (opening closing : String)
      (inner : Disjunction lexemes exprs nesting) :
      Operand (.symbol .openParen opening :: (lexemes ++ [.symbol .closeParen closing]))
        (anyOf exprs) (nesting + 1)

/-- A row of lexemes that spells operands joined by AND, with or without the word. -/
inductive Conjunction : List Lexeme → List Expr → (nesting : Nat) → Prop where
  | single {lexemes : List Lexeme} {expr : Expr} {nesting : Nat}
      (operand : Operand lexemes expr nesting) :
      Conjunction lexemes [expr] nesting
  | adjacent {lexemes others : List Lexeme} {exprs : List Expr} {expr : Expr}
      {nesting nesting' : Nat} (before : Conjunction lexemes exprs nesting)
      (operand : Operand others expr nesting') :
      Conjunction (lexemes ++ others) (exprs ++ [expr]) (max nesting nesting')
  | joined {lexemes others : List Lexeme} {exprs : List Expr} {expr : Expr}
      {nesting nesting' : Nat} (spelling : String) (before : Conjunction lexemes exprs nesting)
      (operand : Operand others expr nesting') :
      Conjunction (lexemes ++ .symbol .and spelling :: others) (exprs ++ [expr])
        (max nesting nesting')

/-- A row of lexemes that spells conjunctions joined by OR. -/
inductive Disjunction : List Lexeme → List Expr → (nesting : Nat) → Prop where
  | single {lexemes : List Lexeme} {exprs : List Expr} {nesting : Nat}
      (conjunction : Conjunction lexemes exprs nesting) :
      Disjunction lexemes [allOf exprs] nesting
  | joined {lexemes others : List Lexeme} {disjuncts exprs : List Expr} {nesting nesting' : Nat}
      (spelling : String) (before : Disjunction lexemes disjuncts nesting)
      (conjunction : Conjunction others exprs nesting') :
      Disjunction (lexemes ++ .symbol .or spelling :: others) (disjuncts ++ [allOf exprs])
        (max nesting nesting')

end

/-- A row of lexemes spells an expression. -/
def Spells (lexemes : List Lexeme) (expr : Expr) (nesting : Nat) : Prop :=
  ∃ exprs, Disjunction lexemes exprs nesting ∧ expr = anyOf exprs

/-! ## Depths -/

/-- The depth right inside parentheses, given by the depths of the open ones, the innermost first. -/
def depthInside : List Nat → Nat
  | [] => 0
  | depth :: _ => depth + 1

/-- The depth of each lexeme: the number of open parentheses around it and of negations stacked on its
path. The row begins at `depth`, inside the parentheses that open at the depths `enclosing`. -/
def depthsFrom (enclosing : List Nat) (depth : Nat) : List Lexeme → List Nat
  | [] => []
  | .symbol .not _ :: rest => depth :: depthsFrom enclosing (depth + 1) rest
  | .symbol .openParen _ :: rest => depth :: depthsFrom (depth :: enclosing) (depth + 1) rest
  | .symbol .closeParen _ :: rest =>
      enclosing.headD 0 :: depthsFrom enclosing.tail (depthInside enclosing.tail) rest
  | _ :: rest => depth :: depthsFrom enclosing (depthInside enclosing) rest

def depths (lexemes : List Lexeme) : List Nat :=
  depthsFrom [] 0 lexemes

end RecordQuery.Expr
