import DefectCatalog.Taxonomy.Outline
import DefectCatalog.Theme.Palette
import DefectCatalog.Screen.Area

/-!
# The sidebar

The outline of the taxonomy as lines of the sidebar, each key with its state
and the number of bugs that carry it, the part of the outline that is drawn,
and the key that a click means.
-/

namespace DefectCatalog.Browser.Sidebar

open Screen

/-- The columns of the sidebar, with its border. -/
def width : Nat := 34

/-- The position of the entry that a row shows. -/
def entryOf? : OutlineRow → Option Nat
  | .entry position _ => some position
  | _ => none

/-- The row that shows the entry under the cursor. -/
def cursorRow (rows : List OutlineRow) (cursor : Nat) : Nat :=
  (rows.findIdx? fun r => entryOf? r == some cursor).getD 0

/-- The first row to draw, so that the cursor's row is among `height` rows; it moves no further
than needed. -/
def firstShown (previous row height : Nat) : Nat :=
  if height = 0 then 0
  else if row < previous then row
  else if row ≥ previous + height then row + 1 - height
  else previous

/-- The rows that are drawn. -/
def window (rows : List OutlineRow) (offset height : Nat) : List OutlineRow :=
  (rows.drop offset).take height

/-- How the line of an entry is shown. -/
structure EntryState where
  active : Bool
  focused : Bool
  count : Nat
deriving DecidableEq, Repr

/-- The number of bugs at the right end of an entry's line. -/
def suffix (count : Nat) : String :=
  " " ++ toString count

/-- The style of an entry. -/
def entryStyle (p : Palette) (s : EntryState) : Style :=
  let style := if s.active then (Style.ofColor p.accent).asBold else p.textStyle
  if s.focused then style.onColor p.selection else style

/-- The line of an entry, in so many cells. -/
def entryLine [Text.Measure] (p : Palette) (cells : Nat) (label : String) (s : EntryState) :
    Line :=
  let style := entryStyle p s
  let room := cells - (6 + (suffix s.count).length)
  .ofSpans
    [⟨if s.active then "  [x] " else "  [ ] ", style⟩,
      ⟨Text.padRight room (Text.truncateCells label room), style⟩,
      ⟨suffix s.count, p.mutedStyle⟩]

/-- The line of a row, in so many cells; `state` tells how an entry is shown. -/
def rowLine [Text.Measure] (p : Palette) (cells : Nat)
    (state : Nat → Taxonomy.Entry → EntryState) : OutlineRow → Line
  | .category name =>
    .styled (Text.truncateCells name cells) (Style.ofColor (p.ofCategory name)).asBold
  | .group name => .styled (" " ++ Text.truncateCells name (cells - 1)) p.labelStyle
  | .entry position e => entryLine p cells e.label.display (state position e)

/-- The entry that is drawn on a row of the screen, if the sidebar starts with row `offset`. -/
def hit? (rows : List OutlineRow) (area : Area) (offset row : Nat) : Option Nat :=
  if row < area.y + 1 then none
  else rows[offset + (row - (area.y + 1))]?.bind entryOf?

end DefectCatalog.Browser.Sidebar
