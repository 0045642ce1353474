import RecordQuery.Expr.Basic
import RecordQuery.Record.Lineage

/-!
# Matching records

Whether a record fulfils an expression. Ancestors are looked up in the lineage of all loaded records;
without one no record has the ancestor asked for. Texts, names and projects are compared by their
lowercase forms, statuses up to the case of ASCII letters.
-/

namespace RecordQuery

namespace Record

def containsText (record : Record) (value : String) (caseSensitive : Bool) : Bool :=
  let text := record.searchableText
  if caseSensitive then Text.occursIn value.toList text.toList
  else Text.occursIn (Text.lower value).toList (Text.lower text).toList

def hasProperty (record : Record) (lineage : Option Lineage) (value : String) :
    PropertyKey → Bool
  | .status => Text.sameUpToAsciiCase record.baseStatus value
  | .project => record.project?.any fun project => Text.lower project == Text.lower value
  | .name => Text.lower record.name == Text.lower value
  | .sibling => Text.lower record.baseName == Text.lower (withoutSiblingNumber value)
  | .ancestor => lineage.any fun lineage => lineage.hasAncestor record value

end Record

namespace Expr

mutual

def holds (lineage : Option Lineage) (record : Record) : Expr → Bool
  | text value caseSensitive signals =>
      match signals.first? with
      | some signal => record.signals.has signal
      | none => record.containsText value caseSensitive
  | property key value => record.hasProperty lineage value key
  | and operands => allHold lineage record operands
  | or operands => anyHolds lineage record operands
  | not operand => !operand.holds lineage record

def allHold (lineage : Option Lineage) (record : Record) : List Expr → Bool
  | [] => true
  | operand :: rest => operand.holds lineage record && allHold lineage record rest

def anyHolds (lineage : Option Lineage) (record : Record) : List Expr → Bool
  | [] => false
  | operand :: rest => operand.holds lineage record || anyHolds lineage record rest

end

/-- The records of a list that fulfil an expression, in their order. -/
def select (expr : Expr) (lineage : Option Lineage) (records : List Record) : List Record :=
  records.filter fun record => expr.holds lineage record

end Expr

end RecordQuery
