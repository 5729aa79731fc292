import DefectCatalog.Column
import DefectCatalog.View

/-!
# The list that reports show

A listing is what reports see of a view: the visible records in order, how
many were loaded, and what the reader chose.
-/

namespace DefectCatalog.Report

/-- A snapshot of the visible list. -/
structure Listing where
  records : List Record
  total : Nat
  filters : List String
  mode : Matching
  sort : Sorting
  taxonomy : Taxonomy

/-- What reports are asked for. -/
structure Options where
  columns : List Column := Column.defaults
  limit : Option Nat := none
  showPatch : Bool := true

/-- The listing of a view. -/
def Listing.ofView (v : View) : Listing where
  records := v.visibleRecords
  total := v.records.length
  filters := v.filters.active
  mode := v.mode
  sort := v.sort
  taxonomy := v.taxonomy

/-- Counts one more record of a project. -/
def tally (counts : List (String × Nat)) (r : Record) : List (String × Nat) :=
  Keyed.put counts r.project ((Keyed.lookup? counts r.project).getD 0 + 1)

/-- The number of records of each project, in order of first appearance. -/
def Listing.perProject (l : Listing) : List (String × Nat) :=
  l.records.foldl tally []

/-- The records that are shown one by one: all of them, or the first few. -/
def Listing.shown (l : Listing) (o : Options) : List Record :=
  match o.limit with
  | some n => l.records.take n
  | none => l.records

end DefectCatalog.Report
