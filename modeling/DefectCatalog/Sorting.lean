import DefectCatalog.Record

/-!
# Sorting

A sorting is a list of fields and a direction.  Only the first field is
compared; the others name the clicked column.  Sorting is stable, so records
that compare equal keep the order in which they were loaded.
-/

namespace DefectCatalog

/-- The fields of a column and the direction of the order. -/
structure Sorting where
  fields : List String
  reverse : Bool := false
deriving DecidableEq, Repr

namespace Sorting

/-- By project, with the commit carried along. -/
def default : Sorting := { fields := ["project", "commit"] }

instance : Inhabited Sorting := ⟨default⟩

/-- The field that is compared. -/
def primary? (s : Sorting) : Option String :=
  s.fields.head?

/-- The order of two records by the primary field. -/
def compare (s : Sorting) (a b : Record) : Ordering :=
  match s.primary? with
  | none => .eq
  | some field =>
    let order := (a.field field).compare (b.field field)
    if s.reverse then order.swap else order

/-- Sorts items by their records; items that compare equal keep their order. -/
def sortBy {α : Type} (s : Sorting) (record : α → Record) (items : List α) : List α :=
  items.mergeSort fun a b => (s.compare (record a) (record b)).isLE

/-- Sorts records. -/
def sort (s : Sorting) (records : List Record) : List Record :=
  s.sortBy id records

/-- Whether two lists of fields name the same column; any two that start with the project do. -/
def sameColumn (fields others : List String) : Bool :=
  fields == others || (fields.head? == some "project" && others.head? == some "project")

/-- A click on a column: the current one changes direction, another one starts ascending. -/
def click (s : Sorting) (fields : List String) : Sorting :=
  if sameColumn fields s.fields then { s with reverse := !s.reverse }
  else { fields, reverse := false }

/-- The primary field with an arrow for the direction. -/
def describe (s : Sorting) : String :=
  s.primary?.getD "-" ++ " " ++ if s.reverse then "↓" else "↑"

end Sorting

end DefectCatalog
