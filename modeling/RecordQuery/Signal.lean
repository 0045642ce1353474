/-!
# Signals

What the record store reports about a change beside its own fields: an error suffix, a running
agent, a running process. A query names each signal by a sign of its own.
-/

namespace RecordQuery

/-- Something that the store noticed about a change. -/
inductive Signal where
  | errorSuffix
  | runningAgent
  | runningProcess
  deriving DecidableEq, Repr

namespace Signal

/-- The signals, in the order in which they are shown and tested. -/
def all : List Signal :=
  [errorSuffix, runningAgent, runningProcess]

def sign : Signal → Char
  | errorSuffix => '!'
  | runningAgent => '@'
  | runningProcess => '$'

/-- The mark that asks for a signal: its sign, three times. -/
def mark (signal : Signal) : List Char :=
  [signal.sign, signal.sign, signal.sign]

/-- The mark that asks for the absence of a signal. -/
def absenceMark (signal : Signal) : List Char :=
  ['!', signal.sign]

end Signal

/-- Which signals are raised. -/
structure Signals where
  errorSuffix : Bool := false
  runningAgent : Bool := false
  runningProcess : Bool := false
  deriving DecidableEq, Repr, Inhabited

namespace Signals

def quiet : Signals := {}

def only : Signal → Signals
  | .errorSuffix => ⟨true, false, false⟩
  | .runningAgent => ⟨false, true, false⟩
  | .runningProcess => ⟨false, false, true⟩

def has (signals : Signals) : Signal → Bool
  | .errorSuffix => signals.errorSuffix
  | .runningAgent => signals.runningAgent
  | .runningProcess => signals.runningProcess

/-- The first raised signal, in the order of `Signal.all`. -/
def first? (signals : Signals) : Option Signal :=
  Signal.all.find? signals.has

@[simp] theorem has_quiet (signal : Signal) : quiet.has signal = false := by
  cases signal <;> rfl

@[simp] theorem first?_quiet : quiet.first? = none := rfl

@[simp] theorem first?_only (signal : Signal) : (only signal).first? = some signal := by
  cases signal <;> rfl

end Signals

end RecordQuery
