import RecordQuery.Record.Lineage

/-!
# Ancestry

The ancestors of a record as a relation: its parent, the parent of each ancestor that is loaded, and no
other names. The relation says nothing of how ancestors are found, and circles need no mention in it.
-/

namespace RecordQuery.Lineage

/-- A lowercase name is that of an ancestor of a record. -/
inductive IsAncestor (lineage : Lineage) (record : Record) : String → Prop where
  | parent {name : String} (link : record.parent = some name) :
      IsAncestor lineage record (Text.lower name)
  | further {key name : String} {ancestor : Record} (nearer : IsAncestor lineage record key)
      (loaded : lineage.lookup? key = some ancestor) (link : ancestor.parent = some name) :
      IsAncestor lineage record (Text.lower name)

end RecordQuery.Lineage
