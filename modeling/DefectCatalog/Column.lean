import DefectCatalog.Record

/-!
# Columns

A column of the bug list: its title, the fields that a click on it sorts by,
and its width.  The first field is also the one that the column shows.
-/

namespace DefectCatalog

/-- A column of the bug list. -/
structure Column where
  title : String
  fields : List String
  width : UInt16 := 10
deriving DecidableEq, Repr

namespace Column

/-- The field that the column shows; a column without fields shows none. -/
def field (c : Column) : String :=
  c.fields.headD ""

/-- The text of a record in the column. -/
def textOf (c : Column) (r : Record) : String :=
  (r.field c.field).display

/-- The columns shown unless others are configured. -/
def defaults : List Column :=
  [⟨"Project", ["project", "commit"], 14⟩, ⟨"Bug", ["commit"], 10⟩,
    ⟨"Files", ["metrics.files"], 7⟩, ⟨"Chunks", ["metrics.chunks"], 7⟩,
    ⟨"Lines", ["metrics.lines"], 7⟩]

end Column

end DefectCatalog
