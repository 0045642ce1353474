import RecordQuery.Json.Parser
import RecordQuery.Record.Basic

/-!
# Records from JSON

A record is written as an object with a field for each of its parts, or as an array of the parts in
their order. What may be missing has a default: an empty description, no parent, no signals. Fields of
other names are passed over; a field that occurs twice is an error.
-/

namespace RecordQuery

open Json (Value)

/-- The value of a field, if the object has one. The outer option is empty if it has several. -/
def fieldOf? (fields : List (String × Value)) (name : String) : Option (Option Value) :=
  match fields.filter fun field => field.1 == name with
  | [] => some none
  | [field] => some (some field.2)
  | _ => none

def textOf? : Value → Option String
  | .string text => some text
  | _ => none

def truthOf? : Value → Option Bool
  | .bool value => some value
  | _ => none

/-- The name of a parent, or null for none. -/
def parentOf? : Value → Option (Option String)
  | .null => some none
  | .string text => some (some text)
  | _ => none

def orDefault {α : Type} (default : α) (read : Value → Option α) : Option Value → Option α
  | none => some default
  | some value => read value

def optionalField {α : Type} (fields : List (String × Value)) (name : String) (default : α)
    (read : Value → Option α) : Option α := do
  orDefault default read (← fieldOf? fields name)

def requiredField {α : Type} (fields : List (String × Value)) (name : String)
    (read : Value → Option α) : Option α := do
  read (← (← fieldOf? fields name))

/-- Reads signals, as an object or as an array of up to three truth values. -/
def Signals.ofJson? : Value → Option Signals
  | .object fields => do
      let errorSuffix ← optionalField fields "error_suffix" false truthOf?
      let runningAgent ← optionalField fields "running_agent" false truthOf?
      let runningProcess ← optionalField fields "running_process" false truthOf?
      return { errorSuffix, runningAgent, runningProcess }
  | .array items => do
      if items.length ≤ 3 then
        let errorSuffix ← orDefault false truthOf? items[0]?
        let runningAgent ← orDefault false truthOf? items[1]?
        let runningProcess ← orDefault false truthOf? items[2]?
        return { errorSuffix, runningAgent, runningProcess }
      else none
  | _ => none

namespace Record

def ofFields? (fields : List (String × Value)) : Option Record := do
  let name ← requiredField fields "name" textOf?
  let description ← optionalField fields "description" "" textOf?
  let status ← requiredField fields "status" textOf?
  let parent ← optionalField fields "parent" none parentOf?
  let filePath ← requiredField fields "file_path" textOf?
  let signals ← optionalField fields "signals" Signals.quiet Signals.ofJson?
  return { name, description, status, parent, filePath, signals }

/-- Reads a record from the items of an array, the last of which may be missing. -/
def ofItems? : List Value → Option Record
  | name :: description :: status :: parent :: filePath :: rest => do
      let name ← textOf? name
      let description ← textOf? description
      let status ← textOf? status
      let parent ← parentOf? parent
      let filePath ← textOf? filePath
      let signals ← match rest with
        | [] => some Signals.quiet
        | [signals] => Signals.ofJson? signals
        | _ => none
      return { name, description, status, parent, filePath, signals }
  | _ => none

def ofJson? : Value → Option Record
  | .object fields => ofFields? fields
  | .array items => ofItems? items
  | _ => none

def listOfJson? : Value → Option (List Record)
  | .array items => items.mapM ofJson?
  | _ => none

def listOfText? (text : String) : Option (List Record) := do
  listOfJson? (← Value.ofText? text)

end Record

end RecordQuery
