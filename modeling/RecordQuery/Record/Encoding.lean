import RecordQuery.Json.Value
import RecordQuery.Record.Basic

/-!
# Records as JSON

A record is written as an object with its parts in their order; a parent is written only if there is
one.
-/

namespace RecordQuery

open Json (Value)

/-- A field that is written only if it has a value. -/
def optionalText (name : String) : Option String → List (String × Value)
  | some text => [(name, .string text)]
  | none => []

def Signals.fields (signals : Signals) : List (String × Value) :=
  [("error_suffix", .bool signals.errorSuffix),
    ("running_agent", .bool signals.runningAgent),
    ("running_process", .bool signals.runningProcess)]

def Record.toJson (record : Record) : Value :=
  .object (
    [("name", .string record.name),
      ("description", .string record.description),
      ("status", .string record.status)] ++
    optionalText "parent" record.parent ++
    [("file_path", .string record.filePath),
      ("signals", .object record.signals.fields)])

end RecordQuery
