import RecordQuery.Text.Ascii

/-!
# Property keys

The properties of a record that a query can address by `key:value`.
-/

namespace RecordQuery

/-- A property of a record that a query can name. -/
inductive PropertyKey where
  | status
  | project
  | ancestor
  | name
  | sibling
  deriving DecidableEq, Repr

namespace PropertyKey

/-- The keys, in the order in which they are offered. -/
def all : List PropertyKey :=
  [status, project, ancestor, name, sibling]

def word : PropertyKey → String
  | status => "status"
  | project => "project"
  | ancestor => "ancestor"
  | name => "name"
  | sibling => "sibling"

/-- The key that a word names, in any case of its ASCII letters. -/
def ofWord? (text : String) : Option PropertyKey :=
  all.find? fun key => key.word == Text.lowerAscii text

/-- A word names a key just if it is the word of the key, up to the case of its letters. -/
theorem ofWord?_eq_some_iff {text : String} {key : PropertyKey} :
    ofWord? text = some key ↔ Text.lowerAscii text = key.word := by
  constructor
  · intro named
    rw [ofWord?, List.find?_eq_some_iff_append] at named
    exact (eq_of_beq named.1).symm
  · intro same
    rw [ofWord?, same]
    cases key <;> rfl

end PropertyKey

end RecordQuery
