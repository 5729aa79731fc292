import DefectCatalog.Screen.Area
import DefectCatalog.Screen.Text

/-!
# The canvas

A canvas is a grid of cells, each with a symbol, two colours and its emphasis.
Drawing changes cells; what would lie outside is not drawn.
-/

namespace DefectCatalog.Screen

/-- A cell of the screen. -/
structure Cell where
  symbol : List Char := [' ']
  fg : Color := .reset
  bg : Color := .reset
  bold : Bool := false
  italic : Bool := false
deriving DecidableEq, Repr, Inhabited

/-- The cell with what a style changes. -/
def Cell.restyle (s : Style) (c : Cell) : Cell :=
  { c with
    fg := s.fg.getD c.fg, bg := s.bg.getD c.bg, bold := c.bold || s.bold
    italic := c.italic || s.italic }

/-- The cell with another symbol and what a style changes. -/
def Cell.put (g : Glyph) (c : Cell) : Cell :=
  { c.restyle g.style with symbol := g.symbol }

/-- The cell with a further symbol in the same place. -/
def Cell.append (g : Glyph) (c : Cell) : Cell :=
  { c.restyle g.style with symbol := c.symbol ++ g.symbol }

/-- A grid of cells, row by row. -/
structure Canvas where
  width : Nat
  height : Nat
  cells : Array Cell

namespace Canvas

/-- A canvas of empty cells. -/
def blank (width height : Nat) : Canvas :=
  ⟨width, height, Array.replicate (width * height) {}⟩

/-- The whole canvas. -/
def area (c : Canvas) : Area :=
  { width := c.width, height := c.height }

/-- Changes the cell at a place. -/
def modify (c : Canvas) (x y : Nat) (f : Cell → Cell) : Canvas :=
  if x < c.width && y < c.height then
    { c with cells := c.cells.modify (y * c.width + x) f }
  else c

/-- Changes the cells of a row from `x` on, `n` of them. -/
def modifyRow (c : Canvas) (x y : Nat) (f : Cell → Cell) : Nat → Canvas
  | 0 => c
  | n + 1 => (c.modify x y f).modifyRow (x + 1) y f n

/-- Changes the cells of `n` rows from `y` on. -/
def modifyRows (c : Canvas) (x y width : Nat) (f : Cell → Cell) : Nat → Canvas
  | 0 => c
  | n + 1 => (c.modifyRow x y f width).modifyRows x (y + 1) width f n

/-- Changes the cells of an area. -/
def modifyArea (c : Canvas) (a : Area) (f : Cell → Cell) : Canvas :=
  c.modifyRows a.x a.y a.width f a.height

/-- Lays a style over an area. -/
def restyle (c : Canvas) (a : Area) (s : Style) : Canvas :=
  c.modifyArea a (Cell.restyle s)

/-- Empties an area. -/
def clear (c : Canvas) (a : Area) : Canvas :=
  c.modifyArea a fun _ => {}

/-- Draws glyphs from column `x` on, as far as they fit into a row.

A glyph without a cell of its own is added to the one before it, and the cells that a wide glyph
covers are emptied. -/
def drawGlyphs (c : Canvas) (a : Area) (x : Nat) (first : Bool) : List Glyph → Canvas
  | [] => c
  | g :: rest =>
    let after := x + g.width
    if after > a.right then c
    else
      let c :=
        if first then c.modify x a.y (Cell.put g)
        else if x = a.x then c.modify x a.y (Cell.append g)
        else if g.width = 0 then c.modify (x - 1) a.y (Cell.append g)
        else c.modify x a.y (Cell.put g)
      (c.modifyRow (x + 1) a.y (fun _ => {}) (g.width - 1)).drawGlyphs a after false rest

/-- Draws spans next to each other, as far as there is room; those without a cell are left out. -/
def drawSpans (c : Canvas) (a : Area) : List Span → Canvas
  | [] => c
  | s :: rest =>
    if s.width = 0 then c.drawSpans a rest
    else if a.isEmpty then c
    else (c.drawGlyphs a a.x true (s.glyphs .plain)).drawSpans (a.dropColumns s.width) rest

/-- Draws a line into the first row of an area. -/
def drawLine (c : Canvas) (a : Area) (l : Line) : Canvas :=
  if a.isEmpty || l.width = 0 then c
  else
    let a := a.row 0
    (c.restyle a l.style).drawSpans a l.spans

/-- Draws a symbol of one cell. -/
def drawSymbol (c : Canvas) (x y : Nat) (symbol : Char) (s : Style) : Canvas :=
  c.modify x y (Cell.put ⟨[symbol], s⟩)

/-- Whether the cell at a position is covered by a wide symbol before it. -/
def isCovered (c : Canvas) (i : Nat) : Bool :=
  match i with
  | 0 => false
  | i + 1 =>
    match c.cells[i]? with
    | some before => 2 ≤ Text.cells before.symbol
    | none => false

/-- The cells of a row as they are seen: a covered one is empty. -/
def seenRow (c : Canvas) (y : Nat) : List Cell :=
  (List.range c.width).map fun x =>
    let i := y * c.width + x
    if c.isCovered i then {} else c.cells[i]?.getD {}

/-- The rows as they are seen. -/
def seen (c : Canvas) : List (List Cell) :=
  (List.range c.height).map c.seenRow

end Canvas

end DefectCatalog.Screen
