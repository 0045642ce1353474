import RecordQuery.Command.Error
import RecordQuery.Command.Invocation
import RecordQuery.Expr.Matching
import RecordQuery.Path
import RecordQuery.Record.Decoding
import RecordQuery.Report.Query
import RecordQuery.Report.Records
import RecordQuery.Settings.Decoding

/-!
# Running the program

Each task makes the text that the program prints, or fails. Files are reached through `Files` only; the
one task that writes is the one that makes a settings file. Tasks on a query alone do without settings
that cannot be read.
-/

namespace RecordQuery.Command

open Json (Value)
open Text (Style)

/-- What a run of the program leaves behind beside files. -/
structure Outcome where
  exitCode : Nat
  stdout : String := ""
  stderr : String := ""
  deriving DecidableEq, Repr

def version : String := "0.1.0"

def overview : String :=
  "csq - ChangeSpec query CLI\nUse --help for usage information\n"

def usage : String :=
  String.join [
    "Usage: csq [OPTIONS] [COMMAND]\n\n",
    "Commands: list, canonical, tokens, check, config, completions, help\n",
    "Options: -v, --verbose, -q, --quiet, --json, --no-color, --records <RECORDS>, ",
    "-h, --help, -V, --version\n"]

def printed (value : Value) : String :=
  value.pretty ++ "\n"

def settingsPath (environment : Environment) : Except SettingsError String :=
  match environment.configFile, environment.configHome, environment.home with
  | some path, _, _ => .ok path
  | none, some directory, _ => .ok (Path.join (Path.join directory "csq") "config.toml")
  | none, none, some home =>
      .ok (Path.join (Path.join (Path.join home ".config") "csq") "config.toml")
  | none, none, none => .error .noPlace

def wantsColors (environment : Environment) (invocation : Invocation) (settings : Settings) : Bool :=
  !invocation.noColor && environment.noColor.all String.isEmpty && settings.color.getD true

section Tasks

variable {m : Type → Type} [Monad m] [Files m]

/-- A command in the making: it reaches files and may fail. -/
abbrev Action (m : Type → Type) := ExceptT CommandError m

def Action.ofExcept {α : Type} : Except CommandError α → Action m α
  | .ok value => pure value
  | .error error => throw error

def Action.ofFile {α : Type} (wrap : FileError → CommandError) (operation : m (Except FileError α)) :
    Action m α := do
  Action.ofExcept ((← operation).mapError wrap)

def isPresent (path : String) : Action m Bool := do
  return ← (Files.isPresent path : m Bool)

/-! ## Settings -/

def settingsFile (environment : Environment) : Action m String :=
  Action.ofExcept ((settingsPath environment).mapError .settings)

/-- The settings of the user; there need not be any. -/
def loadSettings (environment : Environment) : Action m Settings := do
  let path ← settingsFile environment
  if ← isPresent path then
    let text ← Action.ofFile (fun error => .settings (.unreadable error)) (Files.read path)
    match Settings.ofText? text with
    | some settings => return settings
    | none => throw (.settings .malformed)
  else return {}

def settingsLines (path : String) (present : Bool) (settings : Settings) (colors : Bool) : String :=
  let header := "Configuration".toList
  let shown := if colors then Style.bold.apply (Style.green.apply header) else header
  let start := String.ofList shown ++ s!"\n\nFile: {path}\nExists: {present}\n\n"
  let records := match settings.records with
    | some records => s!"  records: {records}\n"
    | none => ""
  let color := match settings.color with
    | some color => s!"  color: {color}\n"
    | none => ""
  let queries := settings.queries.map fun (name, query) => s!"  {name}: {query}\n"
  if present then
    start ++ "Settings:\n" ++ records ++ "\n[output]\n" ++ color ++ "\n[queries]\n" ++
      String.join queries
  else start ++ "(No config file exists. Run 'csq config init' to create one.)\n"

def showSettings (environment : Environment) (invocation : Invocation) (colors : Bool) :
    Action m String := do
  let settings ← loadSettings environment
  let path ← settingsFile environment
  let present ← isPresent path
  if invocation.json then
    return printed (.object [
      ("config", settings.toJson), ("exists", .bool present), ("path", .string path)])
  else if invocation.quiet then return ""
  else return settingsLines path present settings colors

def showSettingsPath (environment : Environment) (invocation : Invocation) : Action m String := do
  let path ← settingsFile environment
  let present ← isPresent path
  if invocation.json then
    return printed (.object [("exists", .bool present), ("path", .string path)])
  else return path ++ "\n"

/-- Makes a settings file, in place of one that is there only if that is forced. -/
def writeSettings (environment : Environment) (invocation : Invocation) (force : Bool) :
    Action m String := do
  let path ← settingsFile environment
  if (← isPresent path) && !force then throw (.settings (.alreadyExists path))
  Action.ofFile (fun error => .settings (.directoryNotMade error)) (Files.makeParents path)
  Action.ofFile (fun error => .settings (.notWritten error)) (Files.write path Settings.template)
  if invocation.json then
    return printed (.object [("path", .string path), ("status", .string "created")])
  else if invocation.quiet then return ""
  else return s!"Created default config at: {path}\n"

/-! ## Queries -/

def readQuery (query : String) : Except CommandError Expr :=
  (Expr.ofText query).mapError (.ofQueryError query)

def showCanonical (invocation : Invocation) (query : String) : Except CommandError String := do
  let canonical := (← readQuery query).canonical
  if invocation.json then return printed (Report.canonicalObject query canonical)
  else return canonical ++ "\n"

def showCheck (invocation : Invocation) (query : String) (colors : Bool) :
    Except CommandError String := do
  let canonical := (← readQuery query).canonical
  if invocation.json then return printed (Report.validObject query canonical)
  else if invocation.quiet then return ""
  else return Report.validLine canonical colors

def showTokens (invocation : Invocation) (query : String) (colors : Bool) :
    Except CommandError String := do
  let tokens ← (Token.ofText query).mapError fun error => .ofQueryError query (.lexical error)
  if invocation.json then return printed (Report.tokensArray tokens)
  else if invocation.quiet then return ""
  else return Report.tokensTable tokens colors

/-! ## Records -/

def recordsPath (invocation : Invocation) (settings : Settings) : Except CommandError String :=
  match invocation.records.or settings.records with
  | some path => .ok path
  | none => .error (.records .noFile)

/-- The query that selects records: a saved one, the given one, or none. -/
def chosenQuery (settings : Settings) (query saved : Option String) :
    Except CommandError (Option String) :=
  match saved with
  | some name => ((settings.savedQuery name).mapError .settings).map some
  | none => .ok query

def loadRecords (path : String) : Action m (List Record) := do
  if ← isPresent path then
    let text ← Action.ofFile .file (Files.read path)
    match Record.listOfText? text with
    | some records => return records
    | none => throw (.records (.malformed path))
  else throw (.records (.notFound path))

/-- The records that fulfil an expression among all loaded ones; all of them if there is none. -/
def matching (expr : Option Expr) (records : List Record) : List Record :=
  match expr with
  | some expr => expr.select (some (Lineage.ofRecords records)) records
  | none => records

/-- The first records of a list, as many as the limit says. -/
def limited (limit : Option Nat) (records : List Record) : List Record :=
  match limit with
  | some limit => records.take limit
  | none => records

def listing (invocation : Invocation) (query : Option String) (expr : Option Expr)
    (limit : Option Nat) (records : List Record) (colors : Bool) : String :=
  let matched := matching expr records
  let shown := limited limit matched
  if invocation.json then
    printed (Report.recordsObject query (expr.map Expr.canonical) shown matched.length)
  else if invocation.quiet then ""
  else Report.recordsTable shown matched.length colors

def showRecords (environment : Environment) (invocation : Invocation) (query saved : Option String)
    (limit : Option Nat) : Action m String := do
  let settings ← loadSettings environment
  let path ← Action.ofExcept (recordsPath invocation settings)
  let query ← Action.ofExcept (chosenQuery settings query saved)
  let expr ← Action.ofExcept (query.mapM readQuery)
  let records ← loadRecords path
  return listing invocation query expr limit records (wantsColors environment invocation settings)

/-! ## Tasks -/

/-- Does what is to be done without records. -/
def runPlain (environment : Environment) (invocation : Invocation) (colors : Bool) :
    PlainTask → Action m String
  | .overview => return if invocation.quiet then "" else overview
  | .canonical query => Action.ofExcept (showCanonical invocation query)
  | .tokens query => Action.ofExcept (showTokens invocation query colors)
  | .check query => Action.ofExcept (showCheck invocation query colors)
  | .showSettings => showSettings environment invocation colors
  | .showSettingsPath => showSettingsPath environment invocation
  | .writeSettings force => writeSettings environment invocation force
  | .completions _ => return ""

def runTask (environment : Environment) (invocation : Invocation) : Action m String :=
  match invocation.task with
  | .list query saved limit => showRecords environment invocation query saved limit
  | .plain task => do
      let settings ← tryCatch (loadSettings environment) fun _ => return {}
      runPlain environment invocation (wantsColors environment invocation settings) task

def outcome (invocation : Invocation) : Except CommandError String → Outcome
  | .ok text => ⟨0, text, ""⟩
  | .error error =>
      ⟨error.exitCode, "", if invocation.json then printed error.toJson else error.report⟩

/-- The outcome when the arguments ask for no task. Arguments that cannot be understood are reported in
one line. -/
def stopOutcome : Stop → Outcome
  | .invalid => ⟨2, "", "error: invalid arguments\n"⟩
  | .version title => ⟨0, title ++ " " ++ version ++ "\n", ""⟩
  | .help => ⟨0, usage, ""⟩

def run (environment : Environment) (arguments : List String) : m Outcome := do
  match Invocation.of environment arguments with
  | .error stop => return stopOutcome stop
  | .ok invocation => return outcome invocation (← (runTask environment invocation).run)

end Tasks

end RecordQuery.Command
