/-!
# Arguments

The arguments of the program: options, the name of a command, and what the command is applied to. Some
options are understood everywhere; they may stand before or after the name of a command. The arguments
are taken up one by one, and the first one that cannot stand at its place ends the reading, as do the
options that ask for help or for the version.
-/

namespace RecordQuery.Command

/-- The commands, with the program itself and the parts of `config` among them. -/
inductive Name where
  | program
  | list
  | canonical
  | tokens
  | check
  | config
  | configShow
  | configPath
  | configInit
  | completions
  deriving DecidableEq, Repr

namespace Name

def title : Name → String
  | program => "csq"
  | list => "csq-list"
  | canonical => "csq-canonical"
  | tokens => "csq-tokens"
  | check => "csq-check"
  | config => "csq-config"
  | configShow => "csq-config-show"
  | configPath => "csq-config-path"
  | configInit => "csq-config-init"
  | completions => "csq-completions"

def isGroup : Name → Bool
  | program => true
  | config => true
  | _ => false

def inner? : Name → String → Option Name
  | program, "list" => some list
  | program, "l" => some list
  | program, "canonical" => some canonical
  | program, "c" => some canonical
  | program, "tokens" => some tokens
  | program, "check" => some check
  | program, "config" => some config
  | program, "completions" => some completions
  | config, "show" => some configShow
  | config, "path" => some configPath
  | config, "init" => some configInit
  | _, _ => none

/-- Whether a command can be applied to something. -/
def takesOperand : Name → Bool
  | list => true
  | canonical => true
  | tokens => true
  | check => true
  | completions => true
  | _ => false

/-- Whether a command has to be applied to something. -/
def needsOperand : Name → Bool
  | list => false
  | name => name.takesOperand

end Name

/-- Options without a value. -/
inductive Flag where
  | verbose
  | quiet
  | json
  | noColor
  | force
  deriving DecidableEq, Repr

inductive ValueOption where
  | records
  | saved
  | limit
  deriving DecidableEq, Repr

/-- What was given to one command. -/
structure Given where
  name : Name
  flags : List Flag := []
  records : Option String := none
  saved : Option String := none
  limit : Option Nat := none
  operand : Option String := none
  deriving DecidableEq, Repr

/-- Why the reading of arguments ends. -/
inductive Stop where
  | invalid
  | version (title : String)
  | help
  deriving DecidableEq, Repr

namespace Given

def flag? (given : Given) : String → Option Flag
  | "verbose" => some .verbose
  | "quiet" => some .quiet
  | "json" => some .json
  | "no-color" => some .noColor
  | "force" => if given.name = .configInit then some .force else none
  | _ => none

def valueOption? (given : Given) : String → Option ValueOption
  | "records" => some .records
  | "saved" => if given.name = .list then some .saved else none
  | "limit" => if given.name = .list then some .limit else none
  | _ => none

def shortFlag? : Char → Option Flag
  | 'v' => some .verbose
  | 'q' => some .quiet
  | _ => none

def shortValueOption? (given : Given) (letter : Char) : Option ValueOption :=
  if given.name = .list then
    match letter with
    | 's' => some .saved
    | 'n' => some .limit
    | _ => none
  else none

/-- Takes up a flag, which can be given once. -/
def raise (given : Given) (flag : Flag) : Except Stop Given :=
  if given.flags.contains flag then .error .invalid
  else .ok { given with flags := flag :: given.flags }

/-- The whole number that a text spells, with or without a plus sign, if it fits into 64 bits. -/
def count? (text : String) : Option Nat :=
  let digits := match text.toList with
    | '+' :: rest => rest
    | characters => characters
  if digits.isEmpty || !digits.all Char.isDigit then none
  else
    let value := digits.foldl (fun value digit => 10 * value + (digit.toNat - '0'.toNat)) 0
    if value < UInt64.size then some value else none

/-- Takes up the value of an option, which can be given once. -/
def supply (given : Given) (option : ValueOption) (value : String) : Except Stop Given :=
  match option with
  | .records =>
      if given.records.isSome || value.isEmpty then .error .invalid
      else .ok { given with records := some value }
  | .saved =>
      if given.saved.isSome then .error .invalid else .ok { given with saved := some value }
  | .limit =>
      match count? value with
      | some count =>
          if given.limit.isSome then .error .invalid else .ok { given with limit := some count }
      | none => .error .invalid

def apply (given : Given) (operand : String) : Except Stop Given :=
  if given.name.takesOperand && given.operand.isNone then
    .ok { given with operand := some operand }
  else .error .invalid

/-- Whether the options and the operand go together, and nothing is missing. -/
def isComplete (given : Given) : Bool :=
  !(given.flags.contains .quiet && given.flags.contains .verbose) &&
    !(given.name.needsOperand && given.operand.isNone) &&
    !(given.saved.isSome && given.operand.isSome)

end Given

/-- How far the arguments have been read. -/
structure Progress where
  /-- What was given to the commands around the current one, the innermost first. -/
  outer : List Given := []
  current : Given := ⟨.program, [], none, none, none, none⟩
  pending : Option ValueOption := none
  /-- Whether two dashes have ended the options. -/
  operandsOnly : Bool := false
  /-- The command that help is asked for. -/
  explained : Option Name := none
  deriving DecidableEq, Repr

namespace Progress

def update (progress : Progress) (change : Given → Except Stop Given) : Except Stop Progress := do
  return { progress with current := ← change progress.current }

/-- Takes up an option with a long name, and the value attached to it. -/
def long (progress : Progress) (name : String) (value : Option String) : Except Stop Progress :=
  match progress.current.flag? name, progress.current.valueOption? name, value with
  | some flag, _, none => progress.update (·.raise flag)
  | none, some option, some value => progress.update (·.supply option value)
  | none, some option, none => .ok { progress with pending := some option }
  | none, none, none =>
      if name = "help" then .error .help
      else if name = "version" then .error (.version progress.current.name.title)
      else .error .invalid
  | _, _, _ => .error .invalid

/-- Takes up options given by letters behind one dash. What follows a letter that needs a value is the
value, an equals sign in front of it apart. -/
def letters (progress : Progress) : List Char → Except Stop Progress
  | [] => .ok progress
  | letter :: rest =>
      match Given.shortFlag? letter, progress.current.shortValueOption? letter with
      | some flag, _ => do (← progress.update (·.raise flag)).letters rest
      | none, some option =>
          match rest with
          | [] => .ok { progress with pending := some option }
          | '=' :: value => progress.update (·.supply option (String.ofList value))
          | value => progress.update (·.supply option (String.ofList value))
      | none, none =>
          if letter = 'h' then .error .help
          else if letter = 'V' then .error (.version progress.current.name.title)
          else .error .invalid

/-- Takes up a word that is no option: the name of a command, or what the command is applied to. -/
def word (progress : Progress) (word : String) : Except Stop Progress :=
  match progress.current.name.inner? word with
  | some name =>
      .ok {
        progress with
        outer := progress.current :: progress.outer
        current := ⟨name, [], none, none, none, none⟩ }
  | none =>
      if word = "help" && progress.current.name.isGroup then
        .ok { progress with explained := some progress.current.name }
      else progress.update (·.apply word)

def explain (progress : Progress) (name : Name) (word : String) : Except Stop Progress :=
  match name.inner? word with
  | some inner => .ok { progress with explained := some inner }
  | none => .error .invalid

def isOption : List Char → Bool
  | '-' :: _ :: _ => true
  | _ => false

/-- Takes up an argument where no value is due and options are understood. -/
def argument (progress : Progress) (text : String) : Except Stop Progress :=
  match text.toList with
  | ['-', '-'] => .ok { progress with operandsOnly := true }
  | '-' :: '-' :: option =>
      let name := option.takeWhile (· ≠ '=')
      let value := match option.drop name.length with
        | _ :: value => some (String.ofList value)
        | [] => none
      progress.long (String.ofList name) value
  | '-' :: letter :: rest => progress.letters (letter :: rest)
  | _ => progress.word text

def step (progress : Progress) (text : String) : Except Stop Progress :=
  match progress.explained, progress.pending with
  | some name, _ => progress.explain name text
  | none, some option =>
      if isOption text.toList then .error .invalid
      else { progress with pending := none }.update (·.supply option text)
  | none, none =>
      if progress.operandsOnly then progress.update (·.apply text) else progress.argument text

/-- What was given to each command, the innermost first, when no argument is left. -/
def finish (progress : Progress) : Except Stop (List Given) :=
  if progress.explained.isSome then .error .help
  else if progress.pending.isSome then .error .invalid
  else .ok (progress.current :: progress.outer)

end Progress

/-- Reads arguments: what was given to each command, the innermost first. -/
def read (arguments : List String) : Except Stop (List Given) := do
  (← arguments.foldlM Progress.step {}).finish

end RecordQuery.Command
