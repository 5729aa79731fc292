import DefectCatalog.View

/-!
# Operations on a view

The operations as data, so that a run is a list.  `View.perform` does one and
answers what it answers; `View.performAll` does a whole run.
-/

namespace DefectCatalog.View

/-- An operation with its arguments. -/
inductive Operation where
  | setRecords (records : List Record)
  | setTaxonomy (taxonomy : Taxonomy)
  | navigate (route : Route)
  | openAt (position : Nat)
  | close
  | next
  | previous
  | back
  | toggleFilter (key : String)
  | setFilter (key : String) (active : Bool)
  | activateFilters (keys : List String)
  | resetFilters
  | setMode (mode : Matching)
  | toggleMode
  | sortBy (fields : List String)
  | count (key : String)
  | drain

/-- What an operation answers. -/
inductive Answer where
  | nothing
  | bool (b : Bool)
  | mode (m : Matching)
  | number (n : Nat)
  | events (es : List Event)

/-- Does one operation. -/
def perform (v : View) : Operation → Answer × View
  | .setRecords records => (.nothing, v.setRecords records)
  | .setTaxonomy taxonomy => (.nothing, v.setTaxonomy taxonomy)
  | .navigate route => (.nothing, v.navigate route)
  | .openAt position => let (b, v) := v.openAt position; (.bool b, v)
  | .close => (.nothing, v.close)
  | .next => (.nothing, v.next)
  | .previous => (.nothing, v.previous)
  | .back => let (b, v) := v.back; (.bool b, v)
  | .toggleFilter key => let (b, v) := v.toggleFilter key; (.bool b, v)
  | .setFilter key active => (.nothing, v.setFilter key active)
  | .activateFilters keys => (.nothing, v.activateFilters keys)
  | .resetFilters => (.nothing, v.resetFilters)
  | .setMode mode => (.nothing, v.setMode mode)
  | .toggleMode => let (m, v) := v.toggleMode; (.mode m, v)
  | .sortBy fields => (.nothing, v.sortBy fields)
  | .count key => let (n, v) := v.count key; (.number n, v)
  | .drain => let (es, v) := v.drain; (.events es, v)

/-- Does the operations in order. -/
def performAll (v : View) (ops : List Operation) : View :=
  ops.foldl (fun v op => (v.perform op).2) v

end DefectCatalog.View
