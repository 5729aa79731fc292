import DefectCatalog.Browser.BugTable
import DefectCatalog.Browser.Cursor
import DefectCatalog.Browser.Overlay
import DefectCatalog.Browser.Sidebar
import DefectCatalog.Browser.Status
import DefectCatalog.Settings
import DefectCatalog.View.Operation

/-!
# The browser

The state of the interactive browser: the view of the catalog, and what only a
screen needs besides.  Every operation that changes the view ends with `catchUp`,
which follows the view's events with the cursors and the patch.
-/

namespace DefectCatalog

namespace Browser

/-- What the keys that move a cursor act on. -/
inductive Focus where
  | list
  | filters
deriving DecidableEq, Repr, Inhabited

/-- The other focus. -/
def Focus.toggled : Focus → Focus
  | list => filters
  | filters => list

/-- What was drawn last, and where. -/
structure Drawn where
  table : Screen.Area := {}
  sidebar : Screen.Area := {}
  /-- The first row of the table that was drawn. -/
  tableTop : Nat := 0
  /-- The first row of the sidebar that was drawn. -/
  sidebarTop : Nat := 0
deriving DecidableEq, Repr, Inhabited

end Browser

/-- The state of the browser. -/
structure Browser where
  view : View
  columns : List Column
  /-- The column whose fields the list is sorted by. -/
  sortedColumn : Nat
  list : Browser.Cursor := {}
  sidebarCursor : Browser.Cursor := {}
  focus : Browser.Focus := .list
  /-- The first line of the patch that is drawn. -/
  patchTop : Nat := 0
  overlay : Browser.Overlay := {}
  status : Browser.StatusLine := {}
  mouse : Bool
  theme : Theme
  awaitsBugs : Bool := false
  awaitsTaxonomy : Bool := false
  drawn : Browser.Drawn := {}
  quits : Bool := false
  ticks : Nat := 0

namespace Browser

/-- The browser that starts with given settings, without documents. -/
def new (s : Settings) : Browser where
  view := .new s.browse.sorting s.browse.mode
  columns := s.browse.columns
  sortedColumn := (s.browse.columns.findIdx? fun c => c.fields == s.browse.sort).getD 0
  overlay := ⟨if s.browse.showWelcome then some .welcome else none⟩
  mouse := s.screen.mouse
  theme := .ofText s.screen.theme

/-- Whether documents are awaited. -/
def isLoading (b : Browser) : Bool :=
  b.awaitsBugs || b.awaitsTaxonomy

/-- Whether a bug is open. -/
def isDetailOpen (b : Browser) : Bool :=
  b.view.detail != .closed

/-- The entries of the sidebar. -/
def entries (b : Browser) : List Taxonomy.Entry :=
  b.view.taxonomy.entries

/-- Follows an event of the view. -/
def follow (b : Browser) : View.Event → Browser
  | .listChanged =>
    { b with
      list := b.list.resize b.view.visibleSize
      sidebarCursor := b.sidebarCursor.resize b.view.taxonomy.size }
  | .opened p | .updated p => { b with list := b.list.select p, patchTop := 0 }
  | .closed | .routeChanged _ => b

/-- Follows all events of the view. -/
def catchUp (b : Browser) : Browser :=
  let (events, view) := b.view.drain
  events.foldl follow { b with view }

/-- Shows news in the footer. -/
def inform (b : Browser) (text : String) : Browser :=
  { b with status := b.status.inform text }

/-- Shows an error in the footer. -/
def report (b : Browser) (text : String) : Browser :=
  { b with status := b.status.report text }

/-- Does an operation on the view and follows it. -/
def act (b : Browser) (op : View.Operation) : Browser :=
  catchUp { b with view := (b.view.perform op).2 }

/-- Does operations on the view and follows them together. -/
def actAll (b : Browser) (ops : List View.Operation) : Browser :=
  catchUp { b with view := b.view.performAll ops }

/-- Closes the welcome panel. -/
def dismissWelcome (b : Browser) : Browser :=
  if b.overlay.shows .welcome then { b with overlay := b.overlay.close } else b

/-- Starts at a route; the welcome panel would cover it. -/
def enterAt (b : Browser) (route : Route) : Browser :=
  b.dismissWelcome.act (.navigate route)

/-- Awaits both documents. -/
def awaitDocuments (b : Browser) : Browser :=
  { b with awaitsBugs := true, awaitsTaxonomy := true }

/-- Takes the bug list, or tells why there is none. -/
def takeRecords (b : Browser) (result : Except CatalogError (List Record)) : Browser :=
  let b := { b with awaitsBugs := false }
  match result with
  | .ok records =>
    (b.inform ("Loaded " ++ toString records.length ++ " bugs")).act (.setRecords records)
  | .error e => (b.report ("Failed to load bugs: " ++ e.message)).catchUp

/-- Takes the classification, or tells why there is none. -/
def takeTaxonomy (b : Browser) (result : Except CatalogError Taxonomy) : Browser :=
  let b := { b with awaitsTaxonomy := false }
  match result with
  | .ok taxonomy => b.act (.setTaxonomy taxonomy)
  | .error e => (b.report ("Failed to load classification: " ++ e.message)).catchUp

/-- Opens the selected bug. -/
def openAtCursor (b : Browser) : Browser :=
  let (opened, view) := b.view.openAt b.list.selected
  let b := { b with view }
  (if opened then b else b.inform "Nothing to open").catchUp

/-- Closes the open bug. -/
def closeBug (b : Browser) : Browser :=
  b.act .close

/-- Opens the next bug. -/
def openNext (b : Browser) : Browser :=
  b.act .next

/-- Opens the bug before. -/
def openPrevious (b : Browser) : Browser :=
  b.act .previous

/-- Returns to the view before. -/
def returnToLast (b : Browser) : Browser :=
  let (went, view) := b.view.back
  let b := { b with view }
  (if went then b else b.inform "No previous view").catchUp

/-- The furthest that a patch is scrolled. -/
def scrollLimit : Nat := 65535

/-- Scrolls the patch. -/
def movePatch (b : Browser) (lines : Int) : Browser :=
  { b with patchTop := min (b.patchTop + lines).toNat scrollLimit }

/-- Flips the filter under the cursor of the sidebar. -/
def toggleSelectedFilter (b : Browser) : Browser :=
  match b.entries[b.sidebarCursor.selected]? with
  | some e => b.act (.toggleFilter e.key)
  | none => b

/-- Changes the match mode. -/
def toggleMode (b : Browser) : Browser :=
  let (mode, view) := b.view.toggleMode
  ({ b with view }.inform ("Match " ++ mode.name)).catchUp

/-- Makes all filters inactive. -/
def resetFilters (b : Browser) : Browser :=
  (b.inform "Filters cleared").act .resetFilters

/-- Clicks on a column: the sorted one changes direction, another one is sorted by. -/
def sortOn (b : Browser) (column : Nat) : Browser :=
  match b.columns[column]? with
  | some c =>
    let view := b.view.sortBy c.fields
    ({ b with view, sortedColumn := column }.inform ("Sorted by " ++ view.sort.describe)).catchUp
  | none => b

/-- Sorts by the next column. -/
def sortByNext (b : Browser) : Browser :=
  if b.columns.isEmpty then b else b.sortOn ((b.sortedColumn + 1) % b.columns.length)

/-- Changes the direction of the sort. -/
def turnSort (b : Browser) : Browser :=
  b.sortOn b.sortedColumn

/-- Moves the cursor that has the focus. -/
def moveCursor (b : Browser) (f : Cursor → Cursor) : Browser :=
  match b.focus with
  | .list => { b with list := f b.list }
  | .filters => { b with sidebarCursor := f b.sidebarCursor }

/-- Changes to the next theme. -/
def cycleTheme (b : Browser) : Browser :=
  { b with theme := b.theme.next }.inform ("Theme: " ++ b.theme.next.name)

/-- Counts a tick of the clock, and lets a message go whose time has passed. -/
def tick (b : Browser) (due : Bool) : Browser :=
  { b with ticks := b.ticks + 1, status := b.status.expire due }

end Browser

end DefectCatalog
