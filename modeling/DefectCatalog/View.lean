import DefectCatalog.Filters
import DefectCatalog.Ring
import DefectCatalog.Route
import DefectCatalog.Sorting
import DefectCatalog.Taxonomy

/-!
# The view of a catalog

A view holds the loaded documents, what the reader chose (filters, match mode,
sort), where the reader is (route history) and what follows from these: the
visible list and the open detail.  Every operation derives the visible list
and the detail again (`refresh`, `followRoute`) and queues events that tell an
observer what changed.

The visible list holds positions in the loaded records.  The counts of flags
are remembered until the records change.
-/

namespace DefectCatalog

/-- The detail is closed, or open on a position of the visible list. -/
inductive Detail where
  | closed
  | on (position : Nat)
deriving DecidableEq, Repr, Inhabited

/-- The open position, if there is one. -/
def Detail.position? : Detail → Option Nat
  | closed => none
  | on p => some p

/-- The detail for a position that may not exist. -/
def Detail.ofPosition? : Option Nat → Detail
  | none => .closed
  | some p => .on p

namespace View

/-- What an operation tells an observer. -/
inductive Event where
  /-- The visible list was derived again. -/
  | listChanged
  /-- The detail opened on a position. -/
  | opened (position : Nat)
  /-- The open detail shows a position, perhaps the one it showed before. -/
  | updated (position : Nat)
  /-- The detail closed. -/
  | closed
  /-- Another route is current. -/
  | routeChanged (route : Route)
deriving DecidableEq, Repr

end View

/-- The state of browsing a catalog. -/
structure View where
  records : List Record := []
  taxonomy : Taxonomy := .empty
  filters : Filters := .empty
  mode : Matching := .all
  sort : Sorting := .default
  history : History := .new 100
  visible : List Nat := []
  detail : Detail := .closed
  counts : List (String × Nat) := []
  pending : List View.Event := []

namespace View

/-- A view without documents, with a given sort and match mode. -/
def new (sort : Sorting := .default) (mode : Matching := .all) : View :=
  { sort, mode }

/-- The current route. -/
def route (v : View) : Route :=
  v.history.current

/-- The records of the visible list, in order. -/
def visibleRecords (v : View) : List Record :=
  v.visible.filterMap fun i => v.records[i]?

/-- The record at a position of the visible list. -/
def visibleRecord? (v : View) (position : Nat) : Option Record :=
  v.visible[position]?.bind fun i => v.records[i]?

/-- The record that the detail shows. -/
def openRecord? (v : View) : Option Record :=
  v.detail.position?.bind v.visibleRecord?

/-- The number of visible records. -/
def visibleSize (v : View) : Nat :=
  v.visible.length

/-- Queues an event. -/
def emit (v : View) (e : Event) : View :=
  { v with pending := v.pending ++ [e] }

/-- Takes the queued events, the oldest first. -/
def drain (v : View) : List Event × View :=
  (v.pending, { v with pending := [] })

/-- The number of loaded records with a flag. -/
def countIn (records : List Record) (key : String) : Nat :=
  records.countP fun r => r.flag key

/-- The number of loaded records with a flag, and the view that remembers it. -/
def count (v : View) (key : String) : Nat × View :=
  match Keyed.lookup? v.counts key with
  | some n => (n, v)
  | none =>
    let n := countIn v.records key
    (n, { v with counts := Keyed.put v.counts key n })

/-- The position in the visible list that the current route leads to. -/
def resolved? (v : View) : Option Nat :=
  match v.route with
  | .list => none
  | .bug project id => v.visible.findIdx? fun i => v.records[i]?.any fun r => r.isAt project id

/-- What a change of the detail tells; `always` reports an open detail that did not move. -/
def detailEvents (always : Bool) : Detail → Detail → List Event
  | .closed, .on p => [.opened p]
  | .on old, .on p => if always || old != p then [.updated p] else []
  | .on _, .closed => [.closed]
  | .closed, .closed => []

/-- An open detail is reported if that is asked for or if it moved. -/
theorem detailEvents_on_on (always : Bool) (p q : Nat) :
    detailEvents always (.on p) (.on q) = if always || p != q then [.updated q] else [] :=
  rfl

/-- Derives the detail from the route and the visible list. -/
def followRoute (v : View) (always : Bool) : View :=
  let detail := Detail.ofPosition? v.resolved?
  { v with detail, pending := v.pending ++ detailEvents always v.detail detail }

/-- The records that a filter set accepts, with their positions, sorted. -/
def arrange (filters : Filters) (mode : Matching) (sort : Sorting) (records : List Record) :
    List (Record × Nat) :=
  sort.sortBy Prod.fst (records.zipIdx.filter fun p => filters.accepts p.1 mode)

/-- Derives the visible list, then the detail. -/
def refresh (v : View) : View :=
  let visible := (arrange v.filters v.mode v.sort v.records).map Prod.snd
  followRoute (emit { v with visible } .listChanged) false

/-- Makes a route current.

A route that leads to no visible record stays current with the detail closed, and leads there
once such a record is visible. -/
def navigate (v : View) (r : Route) : View :=
  let v := if v.route = r then v
    else emit { v with history := v.history.push r } (.routeChanged r)
  v.followRoute true

/-- Opens the record at a position of the visible list, if there is one. -/
def openAt (v : View) (position : Nat) : Bool × View :=
  match v.visibleRecord? position with
  | some r => (true, v.navigate (.ofRecord r))
  | none => (false, v)

/-- Returns to the list. -/
def close (v : View) : View :=
  v.navigate .list

/-- Opens the neighbour of the open record; a closed detail stays closed. -/
def step (v : View) (neighbour : Nat → Nat → Option Nat) : View :=
  match v.detail with
  | .closed => v
  | .on p =>
    match neighbour p v.visibleSize with
    | some q => (v.openAt q).2
    | none => v

/-- Opens the record after the open one. -/
def next (v : View) : View :=
  v.step Ring.next?

/-- Opens the record before the open one. -/
def previous (v : View) : View :=
  v.step Ring.previous?

/-- Returns to the route before the current one, if there is one. -/
def back (v : View) : Bool × View :=
  match v.history.back? with
  | some history =>
    (true, (emit { v with history } (.routeChanged history.current)).followRoute true)
  | none => (false, v)

/-- Replaces the records. -/
def setRecords (v : View) (records : List Record) : View :=
  refresh { v with records, counts := [] }

/-- Replaces the taxonomy. -/
def setTaxonomy (v : View) (taxonomy : Taxonomy) : View :=
  emit { v with taxonomy } .listChanged

/-- Flips a filter key and answers its new state. -/
def toggleFilter (v : View) (key : String) : Bool × View :=
  let (active, filters) := v.filters.flip key
  (active, refresh { v with filters })

/-- Sets a filter key. -/
def setFilter (v : View) (key : String) (active : Bool) : View :=
  refresh { v with filters := v.filters.set key active }

/-- Activates filter keys one after the other. -/
def activateFilters (v : View) (keys : List String) : View :=
  keys.foldl (fun v key => v.setFilter key true) v

/-- Makes every filter key inactive. -/
def resetFilters (v : View) : View :=
  refresh { v with filters := v.filters.clear }

/-- Sets the match mode. -/
def setMode (v : View) (mode : Matching) : View :=
  if v.mode = mode then v else refresh { v with mode }

/-- Changes to the other match mode and answers it. -/
def toggleMode (v : View) : Matching × View :=
  let v := v.setMode v.mode.toggled
  (v.mode, v)

/-- A click on the column with the given fields. -/
def sortBy (v : View) (fields : List String) : View :=
  refresh { v with sort := v.sort.click fields }

end View

end DefectCatalog
