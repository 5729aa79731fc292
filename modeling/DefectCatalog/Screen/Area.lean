/-!
# Areas of the screen

Rectangles of cells, and how a screen is divided into them.
-/

namespace DefectCatalog.Screen

/-- A rectangle of cells. -/
structure Area where
  x : Nat := 0
  y : Nat := 0
  width : Nat := 0
  height : Nat := 0
deriving DecidableEq, Repr, Inhabited

namespace Area

/-- The column after the last one. -/
def right (a : Area) : Nat := a.x + a.width

/-- The row after the last one. -/
def bottom (a : Area) : Nat := a.y + a.height

/-- Whether there is no cell. -/
def isEmpty (a : Area) : Bool := a.width == 0 || a.height == 0

/-- Whether a cell belongs to the area. -/
def contains (a : Area) (column row : Nat) : Bool :=
  a.x ≤ column && column < a.right && a.y ≤ row && row < a.bottom

/-- The area without margins on all sides; nothing, if they do not fit. -/
def inner (a : Area) (horizontal vertical : Nat) : Area :=
  if a.width < 2 * horizontal || a.height < 2 * vertical then {}
  else
    { x := a.x + horizontal, y := a.y + vertical, width := a.width - 2 * horizontal
      height := a.height - 2 * vertical }

/-- The area without its first columns. -/
def dropColumns (a : Area) (n : Nat) : Area :=
  { a with x := a.x + n, width := a.width - n }

/-- A row of the area. -/
def row (a : Area) (n : Nat) : Area :=
  { a with y := a.y + n, height := 1 }

/-- The first columns of the area. -/
def takeColumns (a : Area) (n : Nat) : Area :=
  { a with width := min n a.width }

/-- The border that lies `percent` of `size` behind `start`, a half rounded up. -/
def percentBorder (start size percent : Nat) : Nat :=
  (100 * start + size * percent + 50) / 100

/-- Where the middle part of `percent` starts, and its size. -/
def middle (percent start size : Nat) : Nat × Nat :=
  let before := (100 - percent) / 2
  let first := percentBorder start size before
  let last := percentBorder start size (before + percent)
  (first, last - first)

/-- An area of given percentages in the middle of another. -/
def centered (percentX percentY : Nat) (a : Area) : Area :=
  let (x, width) := middle percentX a.x a.width
  let (y, height) := middle percentY a.y a.height
  { x, y, width, height }

end Area

/-- The smallest screen that the browser is drawn on. -/
def smallestWidth : Nat := 60

/-- The lowest screen that the browser is drawn on. -/
def smallestHeight : Nat := 15

/-- Whether a screen is large enough. -/
def isLargeEnough (width height : Nat) : Bool :=
  smallestWidth ≤ width && smallestHeight ≤ height

end DefectCatalog.Screen
