import RecordQuery.Command.Arguments

/-!
# Invocations

What the arguments and the environment together ask for. Where an option may be given in several places,
the innermost command counts most and the environment least.
-/

namespace RecordQuery.Command

/-- The variables of the environment that matter. -/
structure Environment where
  configFile : Option String := none
  configHome : Option String := none
  /-- The directory of the user, as far as one is known. -/
  home : Option String := none
  recordsFile : Option String := none
  /-- Colours are not wanted if this is set and not empty. -/
  noColor : Option String := none
  deriving DecidableEq, Repr

/-- The shells that completions can be made for. -/
inductive Shell where
  | bash
  | zsh
  | fish
  | powershell
  deriving DecidableEq, Repr

def Shell.ofWord? : String → Option Shell
  | "bash" => some bash
  | "zsh" => some zsh
  | "fish" => some fish
  | "powershell" => some powershell
  | _ => none

/-- What is done without records. -/
inductive PlainTask where
  | overview
  | canonical (query : String)
  | tokens (query : String)
  | check (query : String)
  | showSettings
  | showSettingsPath
  | writeSettings (force : Bool)
  | completions (shell : Shell)
  deriving DecidableEq, Repr

inductive Task where
  | list (query saved : Option String) (limit : Option Nat)
  | plain (task : PlainTask)
  deriving DecidableEq, Repr

/-- A task, and how it is to be done. -/
structure Invocation where
  task : Task
  quiet : Bool := false
  json : Bool := false
  noColor : Bool := false
  /-- The path of the records file, from the arguments or the environment. -/
  records : Option String := none
  deriving DecidableEq, Repr

/-- The task of the innermost command. -/
def Given.task? (given : Given) : Option Task :=
  match given.name with
  | .program => some (.plain .overview)
  | .list => some (.list given.operand given.saved given.limit)
  | .canonical => given.operand.map fun query => .plain (.canonical query)
  | .tokens => given.operand.map fun query => .plain (.tokens query)
  | .check => given.operand.map fun query => .plain (.check query)
  | .config => some (.plain .showSettings)
  | .configShow => some (.plain .showSettings)
  | .configPath => some (.plain .showSettingsPath)
  | .configInit => some (.plain (.writeSettings (given.flags.contains .force)))
  | .completions =>
      (given.operand.bind Shell.ofWord?).map fun shell => .plain (.completions shell)

/-- Whether what was given to a command is complete. A path of records in the environment has to be one,
unless the command has an option for it. -/
def Given.isValid (given : Given) (environment : Environment) : Bool :=
  given.isComplete && (given.records.isSome || environment.recordsFile != some "")

def Invocation.of (environment : Environment) (arguments : List String) : Except Stop Invocation := do
  let givens ← read arguments
  let has (flag : Flag) := givens.any fun given => given.flags.contains flag
  match givens.head?.bind Given.task? with
  | none => .error .invalid
  | some task =>
      if givens.all fun given => given.isValid environment then
        return {
          task
          quiet := has .quiet
          json := has .json
          noColor := has .noColor
          records := (givens.findSome? Given.records).or environment.recordsFile }
      else .error .invalid

end RecordQuery.Command
