import DefectCatalog.Column
import DefectCatalog.Screen.Area
import DefectCatalog.Text.Width
import DefectCatalog.View

/-!
# The table of bugs

Where the columns of the table stand, what its cells show, which rows are
drawn, and what a click means.
-/

namespace DefectCatalog.Browser.BugTable

open Screen

/-- The mark of the selected row. -/
def mark : String := "▶ "

/-- The cells before the first column, for the mark. -/
def gutter : Nat := 2

/-- The cells between columns. -/
def spacing : UInt16 := 1

/-- The title of the last column, which shows the flags. -/
def flagsTitle : String := "Classification"

/-- The least width of the last column. -/
def flagsWidth : Nat := 10

/-- The area of the columns: without the border and the gutter. -/
def columnsArea (table : Area) : Area :=
  (table.inner 1 1).dropColumns gutter

/-- The sum of two words of sixteen bits, unless it overflows. -/
def sum? (m n : UInt16) : Option UInt16 :=
  if m.toNat + n.toNat < UInt16.size then some (m + n) else none

/-- Adds the cells that a column asks for, with the space after it. -/
def addColumn? (total : UInt16) (c : Column) : Option UInt16 := do
  sum? total (← sum? c.width spacing)

/-- The cells that columns ask for, added up in sixteen bits; an addition that overflows ends the
program. -/
def columnsWidth? (columns : List Column) : Option UInt16 :=
  columns.foldlM addColumn? 0

/-- The width that the texts of the last column are cut to, in so many cells: what the sum of the
others leaves. -/
def restWidth? (columns : List Column) (cells : Nat) : Option Nat :=
  (columnsWidth? columns).map fun width => max flagsWidth (cells - width.toNat)

/-- The cells of columns side by side. -/
def cellsOf (widths : List Nat) : Nat :=
  widths.foldr (· + ·) 0

/-- The greatest width up to `limit` that wider columns can be narrowed to so that all fit. -/
def evenWidth (widths : List Nat) (room : Nat) : (limit : Nat) → Nat
  | 0 => 0
  | n + 1 => if cellsOf (widths.map (min (n + 1))) ≤ room then n + 1 else evenWidth widths room n

/-- The widths with those above `width` narrowed to it, and `spare` cells spread over these, `wide`
in number; `before` of them have had their part. -/
def narrowed (width wide spare before : Nat) : List Nat → List Nat
  | [] => []
  | w :: rest =>
    if width < w then
      let parts (n : Nat) := (2 * (spare * n) + wide) / (2 * wide)
      (width + (parts (before + 1) - parts before)) ::
        narrowed width wide spare (before + 1) rest
    else w :: narrowed width wide spare before rest

/-- The widths that columns get in so many cells: those they ask for if these fit. -/
def fitted (widths : List Nat) (room : Nat) : List Nat :=
  if cellsOf widths ≤ room then widths
  else
    let width := evenWidth widths room room
    narrowed width (widths.countP (width < ·)) (room - cellsOf (widths.map (min width))) 0 widths

/-- Where columns start and how wide they are, from `x` on. -/
def slotsFrom (x : Nat) : List Nat → List (Nat × Nat)
  | [] => []
  | w :: rest => (x, w) :: slotsFrom (x + w + spacing.toNat) rest

/-- Where columns stand in an area, with the one of the flags, which keeps its least width if
the others can be narrowed. -/
def slots (columns : List Column) (cells : Area) : List (Nat × Nat) :=
  let spaces := columns.length * spacing.toNat
  let widths := fitted (columns.map fun c => c.width.toNat) (cells.width - (spaces + flagsWidth))
  slotsFrom cells.x (widths ++ [cells.width - (cellsOf widths + spaces)])

/-- The labels of the flags of a record. -/
def flagsText (t : Taxonomy) (r : Record) : String :=
  Text.joined ", " (r.flags.map t.label)

/-- The texts of a row; the last one is that of the flags. -/
def rowTexts (columns : List Column) (rest : Nat) (t : Taxonomy) (r : Record) : List String :=
  (columns.map fun c => Text.truncateCells (c.textOf r) c.width.toNat) ++
    [Text.truncateCells (flagsText t r) rest]

/-- The title of a column; that of the sorted one has an arrow. -/
def title (c : Column) (sorted reverse : Bool) : String :=
  if sorted then c.title ++ " " ++ (if reverse then "↓" else "↑") else c.title

/-- The first row that is drawn of `total` rows, so that the selected row is among `height` rows;
it moves no further than needed. -/
def firstRow (offset selected total height : Nat) : Nat :=
  let offset := min offset (total - 1)
  let selected := min selected (total - 1)
  if selected < offset then selected
  else if selected ≥ offset + height then selected + 1 - height
  else offset

/-- What a click means. -/
inductive Hit where
  | header (column : Nat)
  | row (position : Nat)
deriving DecidableEq, Repr

/-- What a click at a place of the screen means, if the table starts with row `offset`. -/
def hit? (columns : List Column) (table : Area) (offset visible : Nat) (column row : Nat) :
    Option Hit :=
  let cells := columnsArea table
  if row < cells.y || row ≥ cells.bottom then none
  else if row = cells.y then
    (((slots columns cells).take columns.length).findIdx? fun s =>
      s.1 ≤ column && column < s.1 + s.2).map .header
  else
    let position := offset + (row - cells.y - 1)
    if position < visible then some (.row position) else none

end DefectCatalog.Browser.BugTable
