import RecordQuery.Path
import RecordQuery.Signal
import RecordQuery.Text.Ascii
import RecordQuery.Text.Blank
import RecordQuery.Text.Search

/-!
# Change records

A record describes one change. Besides its own fields a query looks at four things derived from them:
the status without its additions, the project, the name without the number of a sibling, and the
text that is searched.
-/

namespace RecordQuery

/-- One change. -/
structure Record where
  name : String
  description : String := ""
  status : String
  parent : Option String := none
  filePath : String
  signals : Signals := {}
  deriving DecidableEq, Repr

/-- What is added to the status of a change that is ready to be mailed. -/
def readyToMail : List Char :=
  " - (!: READY TO MAIL)".toList

/-- The status without the mark of readiness and without what follows in parentheses. -/
def withoutAdditions (status : String) : String :=
  let unready := (Text.dropEnding? readyToMail status.toList).getD status.toList
  String.ofList (Text.trim (Text.before [' ', '('] unready))

/-- The name without the number that tells siblings apart: two underscores and at least one digit. -/
def withoutSiblingNumber (name : String) : String :=
  match Text.splitLast? ['_', '_'] name.toList with
  | some (base, number) =>
      if !number.isEmpty && number.all Text.isAsciiDigit then String.ofList base else name
  | none => name

namespace Record

/-- The status without its additions. -/
def baseStatus (record : Record) : String :=
  withoutAdditions record.status

/-- The name without the number of a sibling. -/
def baseName (record : Record) : String :=
  withoutSiblingNumber record.name

/-- The project: the name of the directory that holds the record's file. -/
def project? (record : Record) : Option String :=
  Path.directoryName? record.filePath

/-- The text that plain strings are looked for in. -/
def searchableText (record : Record) : String :=
  if record.description.isEmpty then record.name else record.name ++ "\n" ++ record.description

end Record

end RecordQuery
