import RecordQuery.Files.Basic
import RecordQuery.Json.Value
import RecordQuery.Text.EditDistance

/-!
# Settings

Users keep settings in a file: the records to look at, whether to use colours, and queries saved under
names. Saved queries are kept in the order of their names.
-/

namespace RecordQuery

open Json (Value)

/-- What a settings file says. -/
structure Settings where
  records : Option String := none
  color : Option Bool := none
  queries : List (String × String) := []
  deriving DecidableEq, Repr

/-- What can go wrong with settings. -/
inductive SettingsError where
  | noPlace
  | unreadable (error : FileError)
  | malformed
  | unknownQuery (name : String) (known : List String)
  | alreadyExists (path : String)
  | directoryNotMade (error : FileError)
  | notWritten (error : FileError)
  deriving DecidableEq, Repr

/-- The greatest edit distance at which a saved query is offered in place of a misspelled one. -/
def querySuggestionReach : Nat := 3

/-- The saved query nearest to a name that names none, if it is near enough. -/
def querySuggestion? (name : String) (known : List String) : Option String :=
  Text.nearest? querySuggestionReach name id known

def unknownQueryHint (name : String) (known : List String) : String :=
  match querySuggestion? name known with
  | some near => s!". Did you mean '{near}'?"
  | none =>
      if known.isEmpty then ". No queries are saved in the config file"
      else ". Saved queries: " ++ ", ".intercalate known

def SettingsError.message : SettingsError → String
  | noPlace => "Could not determine config directory"
  | unreadable error => "Failed to read config: " ++ error.message
  | malformed => "Failed to parse config: the settings do not have the expected form"
  | unknownQuery name known => s!"Unknown saved query '{name}'" ++ unknownQueryHint name known
  | alreadyExists path => s!"Config file already exists at {path} (use --force to overwrite)"
  | directoryNotMade error => "Failed to create config directory: " ++ error.message
  | notWritten error => "Failed to write config: " ++ error.message

namespace Settings

/-- Puts an entry in its place among entries in the order of their names; an entry of the same name gives
way. -/
def insertEntry (name query : String) : List (String × String) → List (String × String)
  | [] => [(name, query)]
  | entry :: rest =>
      if name = entry.1 then (name, query) :: rest
      else if name < entry.1 then (name, query) :: entry :: rest
      else entry :: insertEntry name query rest

/-- Saves a query under a name. -/
def save (settings : Settings) (name query : String) : Settings :=
  { settings with queries := insertEntry name query settings.queries }

/-- Settings with saved queries only; of several under one name the last counts. -/
def ofQueries (queries : List (String × String)) : Settings :=
  queries.foldl (fun settings entry => settings.save entry.1 entry.2) {}

/-- The query saved under a name. -/
def savedQuery (settings : Settings) (name : String) : Except SettingsError String :=
  match settings.queries.lookup name with
  | some query => .ok query
  | none => .error (.unknownQuery name (settings.queries.map Prod.fst))

/-- Settings as an object, with the fields in the order of their names. -/
def toJson (settings : Settings) : Value :=
  let output := match settings.color with
    | some color => [("color", .bool color)]
    | none => []
  let queries :=
    if settings.queries.isEmpty then []
    else [("queries", .object (settings.queries.map fun (name, query) => (name, .string query)))]
  let records := match settings.records with
    | some records => [("records", .string records)]
    | none => []
  .object (("output", .object output) :: queries ++ records ++ [("version", .natural 1)])

/-- The lines of the settings file that is written when there is none. -/
def templateLines : List String :=
  ["# csq - ChangeSpec query CLI configuration",
    "",
    "# Config schema version (do not modify)",
    "version = 1",
    "",
    "# Records file queried when --records / CSQ_RECORDS is not given",
    "# records = \"/path/to/records.json\"",
    "",
    "# Output preferences",
    "[output]",
    "# color = true              # Enable colors (respects NO_COLOR env)",
    "",
    "# Saved queries, used with `csq list --saved <name>`",
    "[queries]",
    "# drafts = \"%d\"",
    "# broken = \"!!! OR @@@\""]

/-- The text of the settings file that is written when there is none. -/
def template : String :=
  String.join (templateLines.map (· ++ "\n"))

end Settings

end RecordQuery
