import RecordQuery.Json.Lexer
import RecordQuery.Json.Value

/-!
# Reading JSON

The reader goes through the parts of a text once. It keeps the arrays and objects that are still open
in a list of frames, so that a text may be nested as deeply as it likes.
-/

namespace RecordQuery.Json

/-- An array or object that is still open, its items or fields so far with the last one first. For an
object the name of the field whose value comes next is known. -/
inductive Frame where
  | array (items : List Value)
  | object (fields : List (Option String × Value)) (name : Option String)

/-- How far a text has been read, with the open frames, the innermost first. -/
inductive Reader where
  /-- A value has to come. -/
  | value (frames : List Frame)
  /-- An array has been opened. -/
  | firstItem (frames : List Frame)
  /-- The name of a field has to come, or the end of an object without fields. -/
  | fieldName (fields : List (Option String × Value)) (frames : List Frame)
  /-- The name of a field has been read. -/
  | colon (fields : List (Option String × Value)) (name : Option String) (frames : List Frame)
  /-- A value has been read. -/
  | done (value : Value) (frames : List Frame)

/-- The object with the given fields, the last one first. It cannot be read if a name has no text. -/
def objectOf (fields : List (Option String × Value)) : Value :=
  match fields.reverse.mapM fun (name, value) => name.map (·, value) with
  | some fields => .object fields
  | none => .unreadable

namespace Reader

def beginValue (frames : List Frame) : Part → Option Reader
  | .null => some (done .null frames)
  | .true => some (done (.bool true) frames)
  | .false => some (done (.bool false) frames)
  | .number spelling => some (done (.number spelling) frames)
  | .string (some text) => some (done (.string text) frames)
  | .string none => some (done .unreadable frames)
  | .openBracket => some (firstItem frames)
  | .openBrace => some (fieldName [] frames)
  | _ => none

/-- Takes up a part behind a value in a frame. -/
def continueFrame (value : Value) (frames : List Frame) : Frame → Part → Option Reader
  | .array items, .comma => some (.value (.array (value :: items) :: frames))
  | .array items, .closeBracket => some (done (.array (value :: items).reverse) frames)
  | .object fields name, .comma => some (fieldName ((name, value) :: fields) frames)
  | .object fields name, .closeBrace => some (done (objectOf ((name, value) :: fields)) frames)
  | _, _ => none

def step (reader : Reader) (part : Part) : Option Reader :=
  match reader, part with
  | value frames, part => beginValue frames part
  | firstItem frames, .closeBracket => some (done (.array []) frames)
  | firstItem frames, part => beginValue (.array [] :: frames) part
  | fieldName [] frames, .closeBrace => some (done (.object []) frames)
  | fieldName fields frames, .string name => some (colon fields name frames)
  | fieldName _ _, _ => none
  | colon fields name frames, .colon => some (value (.object fields name :: frames))
  | colon _ _ _, _ => none
  | done _ [], _ => none
  | done finished (frame :: frames), part => continueFrame finished frames frame part

/-- The value, if the text is complete. -/
def finish? : Reader → Option Value
  | done finished [] => some finished
  | _ => none

end Reader

def Value.ofText? (text : String) : Option Value := do
  let parts ← parts? text.toList
  let reader ← parts.foldlM Reader.step (Reader.value [])
  reader.finish?

end RecordQuery.Json
