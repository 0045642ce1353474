import RecordQuery.Proofs.Juxtaposition

/-!
# Reading by descent

Another way to read tokens: one function for each rule of the grammar, and the functions call each other.
They keep a counter for the open parentheses and pending negations. It goes up in front of what these hold
and down behind it, and it may never leave the range from zero to the limit. A reading that succeeds brings
the counter back to where it was and takes at least one token, but never the end marker.

The recursion ends, since each call has fewer tokens in front of it than the one that it is made from, or as
many and a rule further down.
-/

namespace RecordQuery

def Token.means (token : Token) (meaning : Symbol) : Bool :=
  match token.lexeme with
  | .symbol other _ => other == meaning
  | _ => false

theorem Token.means_iff {token : Token} {meaning : Symbol} :
    token.means meaning = true ↔
      ∃ spelling, token.lexeme = .symbol meaning spelling := by
  rw [Token.means]
  cases token.lexeme with
  | symbol => simp
  | _ => simp

namespace Expr.Descent

/-! ## Results -/

/-- Why a reading stops: for a fault, with the tokens from the one on at which it shows, or because the
counter would leave its range. -/
inductive Stop where
  | fault (fault : GrammarFault) (rest : List Token)
  | depthOutOfRange

/-- What has been read, the counter behind it, and the tokens that are left, which are fewer than a certain
number. -/
structure Reading (α : Type) (bound : Nat) where
  value : α
  depth : Nat
  rest : List Token
  shorter : rest.length < bound

/-- A reading and another one behind it, which need not have taken any token. -/
def Reading.followedBy {α β γ : Type} {bound bound' : Nat}
    (first : Reading α bound) (second : Reading β (first.rest.length + 1))
    (together : α → β → γ) (notMore : bound ≤ bound') : Reading γ bound' where
  value := together first.value second.value
  depth := second.depth
  rest := second.rest
  shorter := by
    have := first.shorter
    have := second.shorter
    omega

/-! ## The counter -/

/-- Every change of the counter is checked. -/
def setDepth (limit : Nat) (depth : Int) : Except Stop Nat :=
  if 0 ≤ depth ∧ depth ≤ limit then .ok depth.toNat
  else .error .depthOutOfRange

/-- Goes one level down, for the first of some tokens. -/
def enter (limit depth : Nat) (tokens : List Token) : Except Stop Nat :=
  if limit ≤ depth then .error (.fault .nestedTooDeeply tokens)
  else setDepth limit (depth + 1)

/-- Comes back up by a number of levels. -/
def leave (limit depth count : Nat) : Except Stop Nat :=
  setDepth limit (depth - count)

/-! ## Looking ahead -/

/-- What stands behind a symbol, if it is the first token. -/
def behind? (meaning : Symbol) : List Token → Option (List Token)
  | [] => none
  | token :: rest => if token.means meaning then some rest else none

/-- Where the next operand of AND begins, with or without the word. -/
def nextOperand? : List Token → Option (List Token)
  | [] => none
  | token :: rest =>
      if token.means .and then some rest
      else if token.lexeme.beginsOperand then some (token :: rest)
      else none

/-- What a lexeme spells by itself. -/
def atom? : Lexeme → Option Expr
  | .string value caseSensitive => some (string value caseSensitive)
  | .property (some key) value => some (property key value)
  | .symbol (.signal asked) _ => some (signal asked)
  | .symbol (.noSignal asked) _ => some (not (signal asked))
  | .symbol .anySignal _ => some anySignal
  | _ => none

/-- Why no operand begins with a lexeme. -/
def refusal : Lexeme → GrammarFault
  | .property none _ => .keylessProperty
  | _ => .unexpected

section LookingAhead

variable {meaning : Symbol} {tokens rest : List Token}

theorem behind?_eq_some_iff :
    behind? meaning tokens = some rest ↔
      ∃ spelling position,
        tokens = ⟨.symbol meaning spelling, position⟩ :: rest := by
  constructor
  · intro found
    cases tokens with
    | nil => cases found
    | cons token others =>
        rw [behind?] at found
        split at found
        · next isMeant =>
            cases found
            obtain ⟨spelling, same⟩ := Token.means_iff.mp isMeant
            exact ⟨spelling, token.position, same ▸ rfl⟩
        · cases found
  · rintro ⟨spelling, position, rfl⟩
    exact if_pos (Token.means_iff.mpr ⟨spelling, rfl⟩)

theorem length_lt_of_behind? (found : behind? meaning tokens = some rest) :
    rest.length < tokens.length := by
  obtain ⟨spelling, position, rfl⟩ := behind?_eq_some_iff.mp found
  exact Nat.lt_succ_self _

theorem length_le_of_nextOperand? (found : nextOperand? tokens = some rest) :
    rest.length ≤ tokens.length := by
  cases tokens with
  | nil => cases found
  | cons token others =>
      rw [nextOperand?] at found
      split at found
      · cases found
        exact Nat.le_succ _
      · split at found <;> cases found
        exact Nat.le_refl _

end LookingAhead

/-! ## The rules -/

/-- Reads the closing parenthesis behind a query. -/
def close {bound : Nat} (limit position : Nat) (inner : Reading Expr bound) :
    Except Stop (Reading Expr (bound + 1)) :=
  match found : behind? .closeParen inner.rest with
  | none => .error (.fault (.unclosedParen position) inner.rest)
  | some behind => do
      let outside ← leave limit inner.depth 1
      return {
        value := inner.value
        depth := outside
        rest := behind
        shorter := by
          have := inner.shorter
          have := length_lt_of_behind? found
          omega }

mutual

/-- Reads conjunctions with OR between them. -/
def disjunction (limit depth : Nat) (tokens : List Token) :
    Except Stop (Reading Expr tokens.length) := do
  let first ← conjunction limit depth tokens
  let others ← disjuncts limit first.depth first.rest
  return first.followedBy others (anyOf <| · :: ·) (Nat.le_refl _)
termination_by (tokens.length, 3)
decreasing_by
  · exact Prod.Lex.right _ (by decide)
  · exact Prod.Lex.left _ _ first.shorter

/-- Reads further conjunctions, each behind OR. -/
def disjuncts (limit depth : Nat) (tokens : List Token) :
    Except Stop (Reading (List Expr) (tokens.length + 1)) :=
  match found : behind? .or tokens with
  | none => return ⟨[], depth, tokens, Nat.lt_succ_self _⟩
  | some behind => do
      have fewer := length_lt_of_behind? found
      let next ← conjunction limit depth behind
      let others ← disjuncts limit next.depth next.rest
      return next.followedBy others List.cons (by omega)
termination_by (tokens.length, 3)
decreasing_by
  · exact Prod.Lex.left _ _ fewer
  · exact Prod.Lex.left _ _ (Nat.lt_trans next.shorter fewer)

/-- Reads operands, with AND between them or next to each other. -/
def conjunction (limit depth : Nat) (tokens : List Token) :
    Except Stop (Reading Expr tokens.length) := do
  let first ← operand limit depth 0 tokens
  let others ← conjuncts limit first.depth first.rest
  return first.followedBy others (allOf <| · :: ·) (Nat.le_refl _)
termination_by (tokens.length, 2)
decreasing_by
  · exact Prod.Lex.right _ (by decide)
  · exact Prod.Lex.left _ _ first.shorter

/-- Reads further operands. -/
def conjuncts (limit depth : Nat) (tokens : List Token) :
    Except Stop (Reading (List Expr) (tokens.length + 1)) :=
  match found : nextOperand? tokens with
  | none => return ⟨[], depth, tokens, Nat.lt_succ_self _⟩
  | some ahead => do
      have notMore := length_le_of_nextOperand? found
      let next ← operand limit depth 0 ahead
      let others ← conjuncts limit next.depth next.rest
      return next.followedBy others List.cons (by omega)
termination_by (tokens.length, 2)
decreasing_by
  · rcases Nat.lt_or_eq_of_le notMore with fewer | same
    · exact Prod.Lex.left _ _ fewer
    · rw [same]
      exact Prod.Lex.right _ (by decide)
  · exact Prod.Lex.left _ _ (Nat.lt_of_lt_of_le next.shorter notMore)

/-- Reads an operand, behind a number of negations that have been entered. -/
def operand (limit depth negations : Nat) (tokens : List Token) :
    Except Stop (Reading Expr tokens.length) :=
  match found : behind? .not tokens with
  | some behind => do
      have fewer := length_lt_of_behind? found
      let inside ← enter limit depth tokens
      let inner ← operand limit inside (negations + 1) behind
      return { inner with shorter := Nat.lt_trans inner.shorter fewer }
  | none => do
      let inner ← primary limit depth tokens
      let outside ← leave limit inner.depth negations
      return {
        inner with
        value := negated negations inner.value
        depth := outside }
termination_by (tokens.length, 1)
decreasing_by
  · exact Prod.Lex.left _ _ fewer
  · exact Prod.Lex.right _ (by decide)

/-- Reads a lexeme that spells an expression by itself, or a query in parentheses. -/
def primary (limit depth : Nat) (tokens : List Token) :
    Except Stop (Reading Expr tokens.length) :=
  match tokens with
  | [] => .error (.fault .unexpected [])
  | token :: rest =>
      match atom? token.lexeme with
      | some value => return ⟨value, depth, rest, Nat.lt_succ_self _⟩
      | none =>
          if token.means .openParen then do
            let inside ← enter limit depth (token :: rest)
            let inner ← disjunction limit inside rest
            close limit token.position inner
          else .error (.fault (refusal token.lexeme) (token :: rest))
termination_by (tokens.length, 0)
decreasing_by
  · exact Prod.Lex.left _ _ (Nat.lt_succ_self _)

end

/-- Reads a whole query, up to the first end marker. -/
def query (tokens : List Token) : Except Stop Expr :=
  if isEmptyQuery tokens then .error (.fault .emptyQuery tokens)
  else do
    let read ← disjunction nestingLimit 0 tokens
    if isEmptyQuery read.rest then return read.value
    else .error (.fault .afterExpression read.rest)

/-! ## What a reading keeps -/

/-- Some tokens are left when those in front of them have been taken, none of which is the end marker. -/
def Takes (tokens rest : List Token) : Prop :=
  ∃ taken, tokens = taken ++ rest ∧ ∀ token ∈ taken, token.isEnd = false

section Takes

variable {tokens middle rest : List Token}

theorem Takes.refl (tokens : List Token) : Takes tokens tokens :=
  ⟨[], rfl, by simp⟩

theorem Takes.trans (first : Takes tokens middle) (second : Takes middle rest) :
    Takes tokens rest := by
  obtain ⟨taken, rfl, noEnd⟩ := first
  obtain ⟨further, rfl, noFurtherEnd⟩ := second
  refine ⟨taken ++ further, (List.append_assoc _ _ _).symm, ?_⟩
  exact List.forall_mem_append.mpr ⟨noEnd, noFurtherEnd⟩

theorem takes_cons {token : Token} (notEnd : token.isEnd = false)
    (rest : List Token) : Takes (token :: rest) rest :=
  ⟨[token], rfl, by simpa using notEnd⟩

theorem takes_of_behind? {meaning : Symbol}
    (found : behind? meaning tokens = some rest) : Takes tokens rest := by
  obtain ⟨spelling, position, rfl⟩ := behind?_eq_some_iff.mp found
  exact takes_cons rfl rest

theorem nextOperand?_eq_some_iff :
    nextOperand? tokens = some rest ↔
      behind? .and tokens = some rest ∨
        tokens = rest ∧
          ∃ token others, tokens = token :: others ∧
            token.lexeme.beginsOperand = true := by
  cases tokens with
  | nil => simp [nextOperand?, behind?]
  | cons token others =>
      rw [nextOperand?, behind?]
      by_cases isAnd : token.means .and = true
      · obtain ⟨spelling, same⟩ := Token.means_iff.mp isAnd
        simp [isAnd, same, Lexeme.beginsOperand]
      · simp [isAnd, and_comm]

theorem takes_of_nextOperand? (found : nextOperand? tokens = some rest) :
    Takes tokens rest := by
  rcases nextOperand?_eq_some_iff.mp found with behind | ⟨rfl, _⟩
  · exact takes_of_behind? behind
  · exact .refl tokens

end Takes

/-- What holds of a result. The counter never leaves its range. -/
def Outcome {α : Type} (succeeds : α → Prop)
    (fails : GrammarFault → List Token → Prop) : Except Stop α → Prop
  | .ok value => succeeds value
  | .error (.fault fault rest) => fails fault rest
  | .error .depthOutOfRange => False

theorem Outcome.bind {α β : Type} {succeeds : α → Prop}
    {succeeds' : β → Prop} {fails : GrammarFault → List Token → Prop}
    {result : Except Stop α} {further : α → Except Stop β}
    (first : Outcome succeeds fails result)
    (second : ∀ value, result = .ok value → succeeds value →
      Outcome succeeds' fails (further value)) :
    Outcome succeeds' fails (result >>= further) := by
  cases result with
  | ok value => exact second value rfl first
  | error stop =>
      cases stop with
      | fault => exact first
      | depthOutOfRange => exact first

/-- If a reading succeeds, the counter has a certain value, and tokens have been taken in front of those that
are left. -/
def Restores {α : Type} {bound : Nat} (tokens : List Token) (depth : Nat) :
    Except Stop (Reading α bound) → Prop :=
  Outcome (fun reading => reading.depth = depth ∧ Takes tokens reading.rest)
    fun _ _ => True

section Counter

variable {limit depth : Nat}

theorem enter_of_lt (room : depth < limit) (tokens : List Token) :
    enter limit depth tokens = .ok (depth + 1) := by
  have inRange : (0 : Int) ≤ depth + 1 ∧ (depth : Int) + 1 ≤ limit := by omega
  rw [enter, if_neg (Nat.not_le.mpr room), setDepth, if_pos inRange]
  rfl

theorem enter_of_le (full : limit ≤ depth) (tokens : List Token) :
    enter limit depth tokens = .error (.fault .nestedTooDeeply tokens) :=
  if_pos full

theorem leave_of_le {count : Nat} (within : depth ≤ limit)
    (entered : count ≤ depth) :
    leave limit depth count = .ok (depth - count) := by
  have inRange : (0 : Int) ≤ (depth : Int) - count ∧
      (depth : Int) - count ≤ limit := by omega
  rw [leave, setDepth, if_pos inRange]
  exact congrArg Except.ok (by omega)

end Counter

/-- Tokens may be taken before a reading. -/
theorem Restores.behind {α : Type} {bound : Nat} {tokens middle : List Token}
    {depth : Nat} {result : Except Stop (Reading α bound)}
    (taken : Takes tokens middle) (restores : Restores middle depth result) :
    Restores tokens depth result :=
  match result, restores with
  | .ok _, ⟨back, takenFurther⟩ => ⟨back, taken.trans takenFurther⟩
  | .error (.fault _ _), _ => trivial

/-- One reading after another, both at the same depth. -/
theorem Restores.followedBy {α β γ : Type} {bound bound' : Nat}
    {tokens : List Token} {limit depth : Nat}
    {first : Except Stop (Reading α bound)}
    {second : (reading : Reading α bound) →
      Except Stop (Reading β (reading.rest.length + 1))}
    {together : α → β → γ} {notMore : bound ≤ bound'}
    (restores : Restores tokens depth first) (within : depth ≤ limit)
    (further : ∀ reading, reading.depth ≤ limit →
      Restores reading.rest reading.depth (second reading)) :
    Restores tokens depth (first >>= fun reading =>
      second reading >>= fun other =>
        .ok (reading.followedBy other together notMore)) := by
  refine restores.bind fun reading _ ⟨back, taken⟩ => ?_
  have restored := further reading (back ▸ within)
  refine restored.bind fun other _ ⟨stillBack, takenFurther⟩ => ?_
  exact ⟨stillBack.trans back, taken.trans takenFurther⟩

/-! ## Each rule in its cases -/

section Cases

variable (limit depth : Nat) {tokens behind : List Token}

theorem disjuncts_of_none (found : behind? .or tokens = none) :
    disjuncts limit depth tokens =
      .ok ⟨[], depth, tokens, Nat.lt_succ_self _⟩ := by
  rw [disjuncts]
  split
  · rfl
  · next others => rw [found] at others; cases others

theorem disjuncts_of_some (found : behind? .or tokens = some behind) :
    ∃ notMore, disjuncts limit depth tokens =
      conjunction limit depth behind >>= fun next =>
        disjuncts limit next.depth next.rest >>= fun others =>
          .ok (next.followedBy others List.cons notMore) := by
  rw [disjuncts]
  split
  · next others => rw [found] at others; cases others
  · next others =>
      rw [found] at others
      cases others
      exact ⟨Nat.le_succ_of_le (Nat.le_of_lt (length_lt_of_behind? found)), rfl⟩

theorem conjuncts_of_none (found : nextOperand? tokens = none) :
    conjuncts limit depth tokens =
      .ok ⟨[], depth, tokens, Nat.lt_succ_self _⟩ := by
  rw [conjuncts]
  split
  · rfl
  · next others => rw [found] at others; cases others

theorem conjuncts_of_some (found : nextOperand? tokens = some behind) :
    ∃ notMore, conjuncts limit depth tokens =
      operand limit depth 0 behind >>= fun next =>
        conjuncts limit next.depth next.rest >>= fun others =>
          .ok (next.followedBy others List.cons notMore) := by
  rw [conjuncts]
  split
  · next others => rw [found] at others; cases others
  · next others =>
      rw [found] at others
      cases others
      exact ⟨Nat.le_succ_of_le (length_le_of_nextOperand? found), rfl⟩

theorem operand_of_some (negations : Nat)
    (found : behind? .not tokens = some behind) :
    ∃ shorter : ∀ inner : Reading Expr behind.length,
        inner.rest.length < tokens.length,
      operand limit depth negations tokens =
        enter limit depth tokens >>= fun inside =>
          operand limit inside (negations + 1) behind >>= fun inner =>
            .ok { inner with shorter := shorter inner } := by
  have fewer := length_lt_of_behind? found
  rw [operand]
  split
  · next others =>
      rw [found] at others
      cases others
      exact ⟨fun inner => Nat.lt_trans inner.shorter fewer, rfl⟩
  · next others => rw [found] at others; cases others

theorem operand_of_none (negations : Nat)
    (found : behind? .not tokens = none) :
    operand limit depth negations tokens =
      primary limit depth tokens >>= fun inner =>
        leave limit inner.depth negations >>= fun outside =>
          .ok { inner with
            value := negated negations inner.value
            depth := outside } := by
  rw [operand]
  split
  · next others => rw [found] at others; cases others
  · rfl

theorem primary_of_atom {token : Token} {rest : List Token} {value : Expr}
    (atom : atom? token.lexeme = some value) :
    primary limit depth (token :: rest) =
      .ok ⟨value, depth, rest, Nat.lt_succ_self _⟩ := by
  rw [primary, atom]
  rfl

theorem primary_of_openParen {token : Token} {rest : List Token}
    (notAtom : atom? token.lexeme = none)
    (opens : token.means .openParen = true) :
    primary limit depth (token :: rest) =
      enter limit depth (token :: rest) >>= fun inside =>
        disjunction limit inside rest >>= close limit token.position := by
  rw [primary, notAtom]
  exact if_pos opens

theorem primary_of_other {token : Token} {rest : List Token}
    (notAtom : atom? token.lexeme = none)
    (opensNot : ¬ token.means .openParen = true) :
    primary limit depth (token :: rest) =
      .error (.fault (refusal token.lexeme) (token :: rest)) := by
  rw [primary, notAtom]
  exact if_neg opensNot

theorem close_of_none {bound : Nat} {inner : Reading Expr bound}
    (position : Nat) (found : behind? .closeParen inner.rest = none) :
    close limit position inner =
      .error (.fault (.unclosedParen position) inner.rest) := by
  rw [close]
  split
  · rfl
  · next others => rw [found] at others; cases others

theorem close_of_some {bound : Nat} {inner : Reading Expr bound}
    (position : Nat) (found : behind? .closeParen inner.rest = some behind)
    (within : inner.depth ≤ limit) (entered : 1 ≤ inner.depth) :
    ∃ shorter, close limit position inner =
      .ok ⟨inner.value, inner.depth - 1, behind, shorter⟩ := by
  have fewer := length_lt_of_behind? found
  rw [close]
  split
  · next others => rw [found] at others; cases others
  · next others =>
      rw [found] at others
      cases others
      rw [leave_of_le within entered]
      exact ⟨Nat.lt_succ_of_lt (Nat.lt_trans fewer inner.shorter), rfl⟩

end Cases

/-! ## Every rule brings the counter back -/

theorem isEnd_eq_false_of_atom? {token : Token} {value : Expr}
    (atom : atom? token.lexeme = some value) : token.isEnd = false := by
  obtain ⟨lexeme, position⟩ := token
  cases lexeme with
  | endOfQuery => cases atom
  | _ => rfl

theorem isEnd_eq_false_of_means {token : Token} {meaning : Symbol}
    (isMeant : token.means meaning = true) : token.isEnd = false := by
  obtain ⟨lexeme, position⟩ := token
  obtain ⟨spelling, rfl⟩ := Token.means_iff.mp isMeant
  rfl

theorem restores_close {bound limit depth position : Nat}
    {inner : Reading Expr bound} (inside : inner.depth = depth + 1)
    (room : depth < limit) :
    Restores inner.rest depth (close limit position inner) := by
  cases found : behind? .closeParen inner.rest with
  | none =>
      rw [close_of_none limit position found]
      trivial
  | some behind =>
      obtain ⟨shorter, closed⟩ :=
        close_of_some limit position found (by omega) (by omega)
      rw [closed]
      exact ⟨by rw [inside]; rfl, takes_of_behind? found⟩

theorem restores_enter {α : Type} {bound limit depth outside : Nat}
    {tokens others : List Token}
    {further : Nat → Except Stop (Reading α bound)}
    (inside : depth < limit →
      Restores others outside (further (depth + 1))) :
    Restores others outside (enter limit depth tokens >>= further) := by
  by_cases room : depth < limit
  · rw [enter_of_lt room]
    exact inside room
  · rw [enter_of_le (Nat.not_lt.mp room)]
    trivial

-- By induction on the calls. What the counter comes back to is the same at every place between two calls,
-- so one reading can follow another.
theorem restores (limit : Nat) :
    (∀ depth tokens, depth ≤ limit →
      Restores tokens depth (disjunction limit depth tokens)) ∧
    (∀ depth tokens, depth ≤ limit →
      Restores tokens depth (disjuncts limit depth tokens)) ∧
    (∀ depth tokens, depth ≤ limit →
      Restores tokens depth (conjunction limit depth tokens)) ∧
    (∀ depth tokens, depth ≤ limit →
      Restores tokens depth (conjuncts limit depth tokens)) ∧
    (∀ depth negations tokens, negations ≤ depth → depth ≤ limit →
      Restores tokens (depth - negations)
        (operand limit depth negations tokens)) ∧
    (∀ depth tokens, depth ≤ limit →
      Restores tokens depth (primary limit depth tokens)) := by
  refine disjunction.mutual_induct _ _ _ _ _ _
    ?disjunction ?noDisjunct ?disjunct ?conjunction ?noConjunct ?conjunct
    ?negation ?behindNegations ?noToken ?atom ?paren ?other
  case disjunction =>
    intro depth tokens first others within
    rw [disjunction]
    exact (first within).followedBy within others
  case noDisjunct =>
    intro depth tokens found within
    rw [disjuncts_of_none limit depth found]
    exact ⟨rfl, .refl tokens⟩
  case disjunct =>
    intro depth tokens behind found _ next others within
    obtain ⟨_, further⟩ := disjuncts_of_some limit depth found
    rw [further]
    exact ((next within).behind (takes_of_behind? found)).followedBy within
      others
  case conjunction =>
    intro depth tokens first others within
    rw [conjunction]
    exact (first (Nat.zero_le _) within).followedBy within others
  case noConjunct =>
    intro depth tokens found within
    rw [conjuncts_of_none limit depth found]
    exact ⟨rfl, .refl tokens⟩
  case conjunct =>
    intro depth tokens behind found _ next others within
    obtain ⟨_, further⟩ := conjuncts_of_some limit depth found
    rw [further]
    exact ((next (Nat.zero_le _) within).behind
      (takes_of_nextOperand? found)).followedBy within others
  case negation =>
    intro depth negations tokens behind found _ inner entered within
    obtain ⟨_, further⟩ := operand_of_some limit depth negations found
    rw [further]
    refine restores_enter fun room => ?_
    have inside := inner (depth + 1) (Nat.succ_le_succ entered) room
    rw [Nat.add_sub_add_right] at inside
    refine (inside.behind (takes_of_behind? found)).bind
      fun reading _ restored => ?_
    exact restored
  case behindNegations =>
    intro depth negations tokens found inner entered within
    rw [operand_of_none limit depth negations found]
    refine (inner within).bind fun reading _ ⟨back, taken⟩ => ?_
    rw [back, leave_of_le within entered]
    exact ⟨rfl, taken⟩
  case noToken =>
    intro depth _
    rw [primary]
    trivial
  case atom =>
    intro depth token rest value atom _
    rw [primary_of_atom limit depth atom]
    exact ⟨rfl, takes_cons (isEnd_eq_false_of_atom? atom) rest⟩
  case paren =>
    intro depth token rest notAtom opens inner _
    rw [primary_of_openParen limit depth notAtom opens]
    refine restores_enter fun room => ?_
    have opening := takes_cons (isEnd_eq_false_of_means opens) rest
    refine ((inner (depth + 1) room).behind opening).bind
      fun reading _ ⟨inside, taken⟩ => ?_
    exact (restores_close inside room).behind taken
  case other =>
    intro depth token rest notAtom opensNot _
    rw [primary_of_other limit depth notAtom opensNot]
    trivial

section Restored

variable {limit depth : Nat} (within : depth ≤ limit) (tokens : List Token)

include within

theorem restores_disjunction :
    Restores tokens depth (disjunction limit depth tokens) :=
  (restores limit).1 depth tokens within

theorem restores_conjunction :
    Restores tokens depth (conjunction limit depth tokens) :=
  (restores limit).2.2.1 depth tokens within

theorem restores_operand {negations : Nat} (entered : negations ≤ depth) :
    Restores tokens (depth - negations)
      (operand limit depth negations tokens) :=
  (restores limit).2.2.2.2.1 depth negations tokens entered within

theorem restores_primary :
    Restores tokens depth (primary limit depth tokens) :=
  (restores limit).2.2.2.2.2 depth tokens within

end Restored

end Expr.Descent

end RecordQuery
