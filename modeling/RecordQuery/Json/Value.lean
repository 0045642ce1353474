/-!
# JSON values

The values that a JSON text can hold. The fields of an object keep the order in which they are written.
-/

namespace RecordQuery.Json

/-- A JSON value. A number is kept as it is spelled. -/
inductive Value where
  | null
  | bool (value : Bool)
  | number (spelling : String)
  | string (text : String)
  | array (items : List Value)
  | object (fields : List (String × Value))
  /-- A value in which an escape names half of a surrogate pair, so that a string or a field name in it
  has no text. -/
  | unreadable
  deriving Inhabited, Repr

namespace Value

def natural (value : Nat) : Value :=
  number (toString value)

/-- A string, or null if there is none. -/
def optional : Option String → Value
  | some text => string text
  | none => null

end Value

end RecordQuery.Json
