import RecordQuery.Json.Printer
import RecordQuery.Query
import RecordQuery.Settings.Basic

/-!
# Failures of commands

A command fails over the query, the settings, the records or a file. Each kind has a code and an exit
code. A failure is reported as lines of text, with a caret below the query if there is one, or as a JSON
object.
-/

namespace RecordQuery

open Json (Value)

/-- What can go wrong with the file of records. -/
inductive RecordsError where
  | noFile
  | notFound (path : String)
  | malformed (path : String)
  deriving DecidableEq, Repr

def RecordsError.message : RecordsError → String
  | noFile =>
      "No records file given. Pass --records, set CSQ_RECORDS, or set `records` in the config file"
  | notFound path => "Records file not found: " ++ path
  | malformed path => s!"Failed to parse {path}: the text is not a list of records"

inductive CommandError where
  | query (query : String) (diagnosis : Diagnosis)
  | settings (error : SettingsError)
  | records (error : RecordsError)
  | file (error : FileError)
  deriving DecidableEq, Repr

namespace CommandError

def ofQueryError (query : String) (error : QueryError) : CommandError :=
  .query query error.diagnosis

def display : CommandError → String
  | query _ diagnosis => "query error: " ++ diagnosis.display
  | settings error => "configuration error: " ++ error.message
  | records error => "records error: " ++ error.message
  | file error => "I/O error: " ++ error.message

def code : CommandError → String
  | query _ _ => "QUERY_ERROR"
  | settings _ => "CONFIG_ERROR"
  | records _ => "RECORDS_ERROR"
  | file _ => "IO_ERROR"

def exitCode : CommandError → Nat
  | query _ _ => 1
  | file _ => 3
  | records _ => 4
  | settings _ => 5

/-- The fields of the report, in the order of their names. -/
def fields (error : CommandError) : List (String × Value) :=
  match error with
  | query text diagnosis =>
      [("code", .string error.code),
        ("detail", .string diagnosis.message),
        ("message", .string error.display),
        ("position", .natural diagnosis.position),
        ("query", .string text)]
  | _ => [("code", .string error.code), ("message", .string error.display)]

def toJson (error : CommandError) : Value :=
  .object [("error", .object error.fields)]

def report (error : CommandError) : String :=
  let first := "Error: " ++ error.display ++ "\n"
  match error with
  | query text diagnosis => first ++ "\n" ++ diagnosis.caret text ++ "\n"
  | _ => first

end CommandError

end RecordQuery
