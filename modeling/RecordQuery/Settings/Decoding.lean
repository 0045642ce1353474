import RecordQuery.Settings.Basic
import RecordQuery.Toml.Document

/-!
# Reading settings

A settings file is a TOML document. Keys that mean nothing here are passed over, but a value of the wrong
kind makes the whole document unusable. The version of the file is checked for its form only.
-/

namespace RecordQuery.Settings

open Toml (Value Entries)

/-- The name under which a moment counts as an entry, where a table is read. -/
def momentKey : String := "$__toml_private_datetime"

/-- Whether a value can be the version of a settings file. -/
def isVersion : Value → Bool
  | .integer version => 0 ≤ version && version < UInt32.size
  | _ => false

def recordsOf? : Option Value → Option (Option String)
  | none => some none
  | some (.string path) => some (some path)
  | some _ => none

/-- Whether to use colours, if this is said. -/
def colorOf? : Option Value → Option (Option Bool)
  | none => some none
  | some (.boolean color) => some (some color)
  | some _ => none

/-- Whether the preferences for output say to use colours. They stand in a table, or by themselves at the
head of an array. -/
def outputOf? : Option Value → Option (Option Bool)
  | none => some none
  | some (.table _ entries) => colorOf? (entries.lookup "color")
  | some (.array (color :: _)) => colorOf? (some color)
  | some (.moment _) => some none
  | some _ => none

def queryOf? : String × Value → Option (String × String)
  | (name, .string query) => some (name, query)
  | _ => none

def queriesOf? : Option Value → Option (List (String × String))
  | none => some []
  | some (.table _ entries) => entries.mapM queryOf?
  | some (.moment text) => some [(momentKey, text)]
  | some _ => none

def ofEntries? (entries : Entries) : Option Settings := do
  let records ← recordsOf? (entries.find? "records")
  let color ← outputOf? (entries.find? "output")
  let queries ← queriesOf? (entries.find? "queries")
  if (entries.find? "version").all isVersion then
    return { ofQueries queries with records, color }
  else none

def ofText? (text : String) : Option Settings := do
  ofEntries? (← Entries.ofText? text)

end RecordQuery.Settings
