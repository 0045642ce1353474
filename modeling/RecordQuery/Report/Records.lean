import RecordQuery.Json.Printer
import RecordQuery.Record.Encoding
import RecordQuery.Text.Cell
import RecordQuery.Text.Lines
import RecordQuery.Text.Style

/-!
# Showing records

Records are shown as a table with one line for each, or as JSON. A limit may have cut the list; `total`
is the number of records before that.
-/

namespace RecordQuery.Report

open Json (Value)
open Text (Style)

/-! ## Table -/

def nameWidth : Nat := 32

def statusWidth : Nat := 24

def projectWidth : Nat := 16

def flagsWidth : Nat := 5

/-- The style for a status without its additions. -/
def statusStyle? (baseStatus : String) : Option Style :=
  match Text.lowerAscii baseStatus with
  | "drafted" => some .yellow
  | "mailed" => some .blue
  | "submitted" => some .green
  | "reverted" => some .dimmed
  | "wip" => some .cyan
  | _ => none

def statusCell (status baseStatus : String) (width : Nat) (colors : Bool) : List Char :=
  let label := Text.cell width status.toList
  match statusStyle? baseStatus with
  | some style => style.applyIf colors label
  | none => label

def signs (signals : Signals) : List Char :=
  (Signal.all.filter signals.has).map Signal.sign

/-- The cell for signals. It stands out if an error suffix is among them. -/
def flagsCell (signals : Signals) (colors : Bool) : List Char :=
  let label := Text.pad flagsWidth (signs signals)
  let stands := colors && signals.errorSuffix
  Style.bold.applyIf stands (Style.red.applyIf stands label)

def joinCells (cells : List (List Char)) : List Char :=
  [' '].intercalate cells

def recordsHeader : List Char :=
  joinCells [
    Text.cell nameWidth "Name".toList,
    Text.cell statusWidth "Status".toList,
    Text.cell projectWidth "Project".toList,
    Text.cell flagsWidth "Flags".toList,
    "Parent".toList]

/-- The line for a record, with the blanks at its end left out. -/
def recordRow (colors : Bool) (record : Record) : List Char :=
  Text.trimEnd <| joinCells [
    Text.cell nameWidth record.name.toList,
    statusCell record.status record.baseStatus statusWidth colors,
    Text.cell projectWidth (record.project?.getD "-").toList,
    flagsCell record.signals colors,
    (record.parent.getD "").toList]

/-- The line below the records if a limit has cut them. -/
def cutNotice (shown total : Nat) : List Char :=
  s!"({shown} of {total} records shown)".toList

/-- Some lines, each with its end. -/
def joinLines (lines : List (List Char)) : String :=
  String.ofList (lines.flatMap (· ++ ['\n']))

theorem toList_joinLines (rows : List (List Char)) :
    (joinLines rows).toList = rows.flatMap (· ++ ['\n']) :=
  String.toList_ofList

/-- The rows are divided where they have line feeds themselves, and nothing stands behind the last one. -/
theorem lines_joinLines (rows : List (List Char)) :
    Text.lines (joinLines rows).toList = rows.flatMap Text.lines ++ [[]] := by
  rw [toList_joinLines]
  induction rows with
  | nil => rfl
  | cons row rows inductionHypothesis =>
      rw [List.flatMap_cons, List.flatMap_cons, List.append_assoc,
        List.singleton_append, Text.lines_append_lineFeed,
        inductionHypothesis, List.append_assoc]

def recordsTable (records : List Record) (total : Nat) (colors : Bool) : String :=
  if records.isEmpty then "No matching records.\n"
  else
    let header := Style.dimmed.applyIf colors recordsHeader
    let notice :=
      if records.length < total then
        [Style.dimmed.applyIf colors (cutNotice records.length total)]
      else []
    joinLines (header :: records.map (recordRow colors) ++ notice)

/-! ## JSON -/

/-- A record with what is derived from it, as an object. -/
def recordObject (record : Record) : Value :=
  .object (
    [("name", .string record.name),
      ("status", .string record.status),
      ("base_status", .string record.baseStatus)] ++
    optionalText "project" record.project? ++
    optionalText "parent" record.parent ++
    ("file_path", .string record.filePath) :: record.signals.fields)

/-- Some records, with the query that selected them and its canonical text. -/
def recordsObject (query canonical : Option String) (records : List Record) (total : Nat) : Value :=
  .object (
    ("query", .optional query) :: optionalText "canonical" canonical ++
    [("total", .natural total), ("records", .array (records.map recordObject))])

end RecordQuery.Report
