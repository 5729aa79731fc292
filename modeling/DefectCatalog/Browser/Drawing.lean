import DefectCatalog.Browser.Detail
import DefectCatalog.Browser.Hints
import DefectCatalog.Browser.Panels
import DefectCatalog.Browser.Input

/-!
# Drawing the browser

The screen of the browser: a header, the sidebar and the table of bugs, a
status bar and a footer; an open bug covers the middle, and a panel covers
that.  Drawing records where the table and the sidebar are, for the mouse, and
which rows they start with, so that the next drawing moves them no further than
needed.

The widths of the columns are added up in sixteen bits, and the lines of a patch
are counted in sixty-four.  Where one of these additions overflows, the program
ends: there is no picture, and what was recorded is what the program ends with.
-/

namespace DefectCatalog.Browser

open Screen

/-- The palette in use. -/
def palette (b : Browser) : Palette :=
  b.theme.palette

/-- Draws the header: the program, the route, the sort and the match mode. -/
def drawHeader (b : Browser) (c : Canvas) (a : Area) : Canvas :=
  let p := b.palette
  c.drawCut a
    [.ofSpans <|
      [⟨"defects-browser", p.titleStyle⟩, ⟨" │ ", p.labelStyle⟩, ⟨b.view.route.text, p.textStyle⟩,
        ⟨" │ ", p.labelStyle⟩] ++
      p.valueBadge "Sort" b.view.sort.describe ++ [⟨" ", .plain⟩] ++
      p.valueBadge "Match" b.view.mode.name]

/-- How the line of an entry is shown. -/
def entryState (b : Browser) (position : Nat) (e : Taxonomy.Entry) : Sidebar.EntryState where
  active := b.view.filters.isActive e.key
  focused := b.focus = .filters && position == b.sidebarCursor.selected
  count := (b.view.count e.key).1

/-- The colour of the border of what may have the focus. -/
def focusColor (b : Browser) (focus : Focus) : Color :=
  if b.focus = focus then b.palette.borderFocused else b.palette.border

/-- The first row of the sidebar to draw in an area. -/
def sidebarTop (b : Browser) (rows : List OutlineRow) (a : Area) : Nat :=
  Sidebar.firstShown b.drawn.sidebarTop (Sidebar.cursorRow rows b.sidebarCursor.selected)
    (a.height - 2)

/-- The lines of the sidebar in an area. -/
def sidebarLines [Text.Measure] (b : Browser) (rows : List OutlineRow) (a : Area) : List Line :=
  (Sidebar.window rows (b.sidebarTop rows a) (a.height - 2)).map
    (Sidebar.rowLine b.palette (a.width - 2) b.entryState)

/-- The title of the sidebar. -/
def sidebarTitle (b : Browser) : String :=
  " Filters (" ++ toString b.view.filters.activeCount ++ " active, match " ++ b.view.mode.name ++
    ") "

/-- Draws the sidebar. -/
def drawSidebar (b : Browser) (c : Canvas) (a : Area) : Canvas × Browser :=
  let b := { b with drawn := { b.drawn with sidebar := a } }
  if b.entries.isEmpty then
    let message :=
      if b.awaitsTaxonomy then "Loading classification..." else "No classification loaded"
    (Panels.drawEmpty c b.palette a message none, b)
  else
    let rows := Taxonomy.outline b.entries
    let color := b.focusColor .filters
    let block : Block :=
      { title := .ofText b.sidebarTitle, titleStyle := (Style.ofColor color).asBold
        style := .ofColor color }
    ((block.draw c a).drawCut (Block.inside a) (b.sidebarLines rows a),
      { b with drawn := { b.drawn with sidebarTop := b.sidebarTop rows a } })

/-- What stands in for the rows of the table, with a hint. -/
def emptyTableMessage (b : Browser) : String × Option String :=
  if b.isLoading then ("Loading bugs...", none)
  else if b.view.records.isEmpty then
    ("No bugs loaded", some "Check --bugs or data.bugs in the config file")
  else
    ("No bug matches the active filters",
      some "Press [c] to clear filters or [m] to match any")

/-- Draws the first line of a text into a cell of the table, on a style. -/
def drawTableCell (c : Canvas) (a : Area) (text : String) (s : Style) : Canvas :=
  let first := (Text.lines text).headD ""
  (c.restyle a s).drawLine a (.ofText first)

/-- Draws texts into the columns of a row. -/
def drawTableCells (c : Canvas) (y : Nat) : List ((Nat × Nat) × String × Style) → Canvas
  | [] => c
  | ((x, width), text, style) :: rest =>
    drawTableCells (drawTableCell c { x, y, width, height := 1 } text style) y rest

/-- The titles of the table. -/
def tableTitles (b : Browser) : List (String × Style) :=
  let p := b.palette
  (b.columns.zipIdx.map fun (column, i) =>
    let sorted := i == b.sortedColumn
    (BugTable.title column sorted b.view.sort.reverse,
      (Style.ofColor (if sorted then p.accent else p.primary)).asBold)) ++
    [(BugTable.flagsTitle, (Style.ofColor p.primary).asBold)]

/-- Draws a row of the table into a row of an area. -/
def drawTableRow (b : Browser) (c : Canvas) (inside : Area) (slots : List (Nat × Nat))
    (rest : Nat) (r : Record) (selected : Bool) : Canvas :=
  let p := b.palette
  let c := if selected then c.drawLine (inside.takeColumns BugTable.gutter) (.ofText BugTable.mark)
    else c
  let texts := BugTable.rowTexts b.columns rest b.view.taxonomy r
  let styles := b.columns.map (fun _ => Style.plain) ++ [p.mutedStyle]
  let c := drawTableCells c inside.y (slots.zip (texts.zip styles))
  if selected then c.restyle (inside.row 0) (Style.plain.onColor p.selection).asBold else c

/-- Draws rows of the table below each other; `position` is that of the first one. -/
def drawTableRows (b : Browser) (c : Canvas) (inside : Area) (slots : List (Nat × Nat))
    (rest position : Nat) : List Record → Canvas
  | [] => c
  | r :: records =>
    let c := b.drawTableRow c inside slots rest r (position == b.list.selected)
    b.drawTableRows c { inside with y := inside.y + 1 } slots rest (position + 1) records

/-- Draws a symbol on each of `n` rows from `y` on. -/
def drawBar (c : Canvas) (x y n : Nat) (symbol : Char) (s : Style) : Canvas :=
  Block.drawDown c x y n symbol s

/-- The quotient of two numbers, rounded to the nearest, a half upwards. -/
def roundedQuotient (a d : Nat) : Nat :=
  (2 * a + d) / (2 * d)

/-- Where the thumb of a scroll bar starts and ends, on a track of so many cells. -/
def thumb (offset total bar : Nat) : Nat × Nat :=
  let track := bar - 2
  let range := total - 1 + bar
  let start := min (roundedQuotient (offset * track) range) (track - 1)
  let stop := min (roundedQuotient ((offset + bar) * track) range) track
  (start, max stop (start + 1))

/-- Draws the scroll bar over the right border of the table. -/
def drawScrollBar (b : Browser) (c : Canvas) (a : Area) (offset total : Nat) : Canvas :=
  let p := b.palette
  let bar := a.height - 2
  let x := a.right - 1
  let top := a.y + 1
  let (start, stop) := thumb offset total bar
  let c := c.drawSymbol x top '▲' .plain
  let c := drawBar c x (top + 1) (bar - 2) '║' p.labelStyle
  let c := drawBar c x (top + 1 + start) (stop - start) '█' (.ofColor p.accent)
  c.drawSymbol x (top + bar - 1) '▼' .plain

/-- The title of the table. -/
def tableTitle (b : Browser) : String :=
  " Bugs (" ++ toString b.view.visibleSize ++ " of " ++ toString b.view.records.length ++ ") "

/-- Draws the visible records as a table whose last column has texts of so many cells. -/
def drawRecords (b : Browser) (c : Canvas) (a : Area) (rest : Nat) : Canvas × Browser :=
  let p := b.palette
  let total := b.view.visibleSize
  let titleStyle :=
    if b.focus = .list then (Style.ofColor p.borderFocused).asBold else p.mutedStyle
  let block : Block :=
    { title := .ofText b.tableTitle, titleStyle, style := .ofColor (b.focusColor .list) }
  let c := block.draw c a
  let inside := Block.inside a
  let slots := BugTable.slots b.columns (BugTable.columnsArea a)
  let height := inside.height - 1
  let offset := BugTable.firstRow b.drawn.tableTop b.list.selected total height
  let c := drawTableCells c inside.y (slots.zip b.tableTitles)
  let c := b.drawTableRows c { inside with y := inside.y + 1 } slots rest offset
    ((b.view.visibleRecords.drop offset).take height)
  let c := if total > a.height - 3 then b.drawScrollBar c a offset total else c
  (c, { b with drawn := { b.drawn with tableTop := offset } })

/-- Draws the table of bugs, unless the widths of its columns overflow. -/
def drawTable (b : Browser) (c : Canvas) (a : Area) : Option Canvas × Browser :=
  let b := { b with drawn := { b.drawn with table := a } }
  if b.view.visibleSize = 0 then
    let (message, hint) := b.emptyTableMessage
    (some (Panels.drawEmpty c b.palette a message hint), b)
  else
    match BugTable.restWidth? b.columns (BugTable.columnsArea a).width with
    | some rest =>
      let (c, b) := b.drawRecords c a rest
      (some c, b)
    | none => (none, b)

/-- The pictures of a turning wheel. -/
def spinner : List String :=
  ["⠋", "⠙", "⠹", "⠸", "⠼", "⠴", "⠦", "⠧", "⠇", "⠏"]

/-- Draws the status bar: how many bugs are shown, and what else is going on. -/
def drawStatusBar (b : Browser) (c : Canvas) (a : Area) : Canvas :=
  let p := b.palette
  let divider : Span := ⟨" │ ", p.labelStyle⟩
  let wheel := spinner[b.ticks % spinner.length]?.getD ""
  let loading :=
    if b.isLoading then [divider, ⟨wheel ++ " loading", .ofColor p.primary⟩] else []
  let back :=
    if b.view.history.hasPast then [divider, ⟨"[b] back", .ofColor p.accent⟩] else []
  let spans :=
    [⟨" Bugs: ", p.mutedStyle⟩,
      ⟨toString b.view.visibleSize, (Style.ofColor p.primary).asBold⟩,
      ⟨" of " ++ toString b.view.records.length, p.mutedStyle⟩, divider,
      ⟨"Filters: ", p.mutedStyle⟩, p.numberBadge b.view.filters.activeCount p.accent] ++
    loading ++ back
  (c.restyle a p.barStyle).drawCut a [.ofSpans spans]

/-- The hints of the footer. -/
def hints (b : Browser) : List Hint :=
  if b.isDetailOpen then Hint.detail
  else if b.focus = .filters then Hint.filters
  else Hint.list

/-- Draws the footer: the message, or hints if there is none. -/
def drawFooter (b : Browser) (c : Canvas) (a : Area) : Canvas :=
  let p := b.palette
  match b.status.message with
  | some text =>
    let (symbol, color) := match b.status.level with
      | .info => ("ℹ ", p.accent)
      | .error => ("✗ ", p.error)
    c.drawCut a
      [.ofSpans [⟨symbol, .ofColor color⟩, ⟨text, (Style.ofColor color).asBold⟩]] .center
  | none => (c.restyle a p.mutedStyle).drawCut a [.ofSpans (Hint.row p b.hints)] .center

/-- Draws the patch of a record, unless its line numbers overflow. -/
def drawPatch (b : Browser) (c : Canvas) (a : Area) (r : Record) : Option Canvas :=
  let p := b.palette
  let (added, removed) := r.patchCounts
  let block : Block :=
    { title := .ofSpans [⟨" Patch ", p.headingStyle⟩, ⟨"+" ++ toString added ++ " ", p.addedStyle⟩,
        ⟨"-" ++ toString removed ++ " ", p.removedStyle⟩]
      style := p.borderStyle }
  let c := block.drawRule c a
  if r.patch.isEmpty then
    some (c.drawCut (Block.below a) [.styled "No patch available" p.mutedStyle])
  else
    (PatchView.lines? p r.patch).map fun lines =>
      c.drawCut (Block.below a) (lines.drop b.patchTop)

/-- Draws the open bug, at its position in the list; the number of the lines above its patch is
taken for a word of sixteen bits. -/
def drawDetail (b : Browser) (c : Canvas) (a : Area) (position : Nat) (r : Record) :
    Option Canvas :=
  let p := b.palette
  let a := a.centered 90 90
  let block : Block :=
    { title := .ofSpans [⟨" " ++ r.project ++ " " ++ r.commit ++ " ", p.titleStyle⟩,
        ⟨"(" ++ toString (position + 1) ++ " of " ++ toString b.view.visibleSize ++ ") ",
          p.mutedStyle⟩]
      style := p.focusedBorder }
  let c := block.draw (c.clear a) a
  let inside := Block.inside a
  let lines := Detail.lines p b.view.taxonomy r
  let height := max (min (lines.length % UInt16.size) (inside.height / 2)) 1
  let c := c.drawWrapped { inside with height } lines
  b.drawPatch c { inside with y := inside.y + height, height := inside.height - height } r

/-- Draws the open bug, if one is open. -/
def drawOpen (b : Browser) (c : Canvas) (a : Area) : Option Canvas :=
  match b.view.detail, b.view.openRecord? with
  | .on position, some r => b.drawDetail c a position r
  | _, _ => some c

/-- Draws the panel that is shown, if one is. -/
def drawPanel (b : Browser) (c : Canvas) : Canvas :=
  match b.overlay.panel with
  | some .help => Panels.drawHelp c b.palette
  | some .welcome => Panels.drawWelcome c b.palette
  | none => c

/-- Draws what is below the sidebar and the table, and what covers them. -/
def drawAround (b : Browser) (c : Canvas) (width height : Nat) : Option Canvas := do
  let c := b.drawStatusBar c { y := height - 2, width, height := 1 }
  let c := b.drawFooter c { y := height - 1, width, height := 1 }
  let c ← b.drawOpen c { x := 0, y := 1, width, height := height - 3 }
  return b.drawPanel c

/-- Draws the browser on a screen of a size, and records what was drawn. -/
def draw (b : Browser) (width height : Nat) : Option Canvas × Browser :=
  let c := Canvas.blank width height
  if isLargeEnough width height then
    let body : Area := { x := 0, y := 1, width, height := height - 3 }
    let c := b.drawHeader c { width, height := 1 }
    let (c, b) := b.drawSidebar c { body with width := Sidebar.width }
    let (table?, b) := b.drawTable c (body.dropColumns Sidebar.width)
    (table?.bind fun c => b.drawAround c width height, b)
  else (some (Panels.drawTooSmall c b.palette), b)

end DefectCatalog.Browser
