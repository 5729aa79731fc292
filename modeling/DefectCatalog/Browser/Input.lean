import DefectCatalog.Browser.State

/-!
# Keys and mouse

What a key or a mouse event does.  A panel that covers the screen takes every
key; an open bug takes the keys that would act on the list.
-/

namespace DefectCatalog.Browser

/-- A key. -/
inductive Key where
  | enter
  | escape
  | tab
  | backTab
  | backspace
  | up
  | down
  | left
  | right
  | pageUp
  | pageDown
  | home
  | endKey
  | delete
  | function (number : Nat)
  | char (c : Char)
  /-- Any other key: insert, the locks, media and modifier keys. -/
  | other
deriving DecidableEq, Repr

/-- A key event. -/
structure KeyEvent where
  key : Key
  control : Bool := false
  /-- Whether this is no press: the key is let go, or held down and repeats. -/
  released : Bool := false
deriving DecidableEq, Repr

/-- What the mouse does. -/
inductive MouseAction where
  /-- The left button goes down. -/
  | press
  | scrollUp
  | scrollDown
  | other
deriving DecidableEq, Repr

/-- A mouse event at a place of the screen. -/
structure MouseEvent where
  action : MouseAction
  column : Nat
  row : Nat
deriving DecidableEq, Repr

/-- A key while a bug is open. -/
def detailKey (b : Browser) : Key → Browser
  | .right | .char 'l' => b.openNext
  | .left | .char 'h' => b.openPrevious
  | .escape | .char 'q' => b.closeBug
  | .down | .char 'j' => b.movePatch 1
  | .up | .char 'k' => b.movePatch (-1)
  | .pageDown => b.movePatch Cursor.page
  | .pageUp => b.movePatch (-Cursor.page)
  | .home | .char 'g' => { b with patchTop := 0 }
  | _ => b

/-- The key that acts on what is selected. -/
def enterKey (b : Browser) : Browser :=
  match b.focus with
  | .list => b.openAtCursor
  | .filters => b.toggleSelectedFilter

/-- A key while the list is shown. -/
def listKey (b : Browser) : Key → Browser
  | .char 'q' => { b with quits := true }
  | .escape => { b with focus := .list }
  | .tab | .backTab => { b with focus := b.focus.toggled }
  | .up | .char 'k' => b.moveCursor Cursor.previous
  | .down | .char 'j' => b.moveCursor Cursor.next
  | .pageUp => b.moveCursor Cursor.pageUp
  | .pageDown => b.moveCursor Cursor.pageDown
  | .home | .char 'g' => b.moveCursor Cursor.first
  | .endKey | .char 'G' => b.moveCursor Cursor.last
  | .char ' ' => if b.focus = .filters then b.toggleSelectedFilter else b
  | .enter => b.enterKey
  | .char 'm' => b.toggleMode
  | .char 'c' => b.resetFilters
  | .char 's' => b.sortByNext
  | .char 'r' => b.turnSort
  | _ => b

/-- A key while the help panel is shown. -/
def helpKey (b : Browser) : Key → Browser
  | .escape | .char 'q' | .char '?' => { b with overlay := b.overlay.close }
  | _ => b

/-- A key while no panel is shown. -/
def openKey (b : Browser) (key : Key) : Browser :=
  match key with
  | .char '?' => { b with overlay := b.overlay.toggle .help }
  | .char 'T' => b.cycleTheme
  | .char 'b' | .backspace => b.returnToLast
  | _ => if b.isDetailOpen then b.detailKey key else b.listKey key

/-- A key event; letting a key go does nothing, and every key acknowledges news. -/
def handleKey (b : Browser) (e : KeyEvent) : Browser :=
  if e.released then b
  else
    let b := { b with status := b.status.dismissNews }
    if e.key = .char 'c' && e.control then { b with quits := true }
    else
      match b.overlay.panel with
      | some .welcome => { b with overlay := b.overlay.close }
      | some .help => b.helpKey e.key
      | none => b.openKey e.key

/-- A click into the table. -/
def clickTable (b : Browser) (column row : Nat) : Browser :=
  let b := { b with focus := .list }
  match BugTable.hit? b.columns b.drawn.table b.drawn.tableTop b.view.visibleSize column row with
  | some (.header index) => b.sortOn index
  | some (.row position) =>
    if position = b.list.selected then b.openAtCursor
    else { b with list := b.list.select position }
  | none => b

/-- A click into the sidebar. -/
def clickSidebar (b : Browser) (row : Nat) : Browser :=
  let b := { b with focus := .filters }
  match Sidebar.hit? (Taxonomy.outline b.entries) b.drawn.sidebar b.drawn.sidebarTop row with
  | some index => { b with sidebarCursor := b.sidebarCursor.select index }.toggleSelectedFilter
  | none => b

/-- A click at a place of the screen. -/
def click (b : Browser) (column row : Nat) : Browser :=
  if b.drawn.table.contains column row then b.clickTable column row
  else if b.drawn.sidebar.contains column row then b.clickSidebar row
  else b

/-- A mouse event; while a panel is shown, or without mouse support, it does nothing. -/
def handleMouse (b : Browser) (e : MouseEvent) : Browser :=
  if !b.mouse || b.overlay.isShown then b
  else
    match e.action, b.isDetailOpen with
    | .scrollDown, true => b.movePatch 3
    | .scrollUp, true => b.movePatch (-3)
    | .scrollDown, false => b.moveCursor Cursor.next
    | .scrollUp, false => b.moveCursor Cursor.previous
    | .press, false => b.click e.column e.row
    | _, _ => b

end DefectCatalog.Browser
