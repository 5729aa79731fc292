import DefectCatalog.Screen.Canvas

/-!
# Blocks

A block is a border round an area, with a title in its upper side.  A rule is
the upper side alone.
-/

namespace DefectCatalog.Screen

/-- A border with a title; `titleStyle` lies under the title. -/
structure Block where
  title : Line := .empty
  titleStyle : Style := .plain
  style : Style := .plain

namespace Block

/-- The area inside the border. -/
def inside (a : Area) : Area :=
  { x := a.x + 1, y := a.y + 1, width := a.width - 2, height := a.height - 2 }

/-- The area below a rule. -/
def below (a : Area) : Area :=
  { a with y := a.y + 1, height := a.height - 1 }

/-- Draws the same symbol `n` times, to the right. -/
def drawAcross (c : Canvas) (x y n : Nat) (symbol : Char) (s : Style) : Canvas :=
  c.modifyRow x y (Cell.put ⟨[symbol], s⟩) n

/-- Draws the same symbol `n` times, downwards. -/
def drawDown (c : Canvas) (x y n : Nat) (symbol : Char) (s : Style) : Canvas :=
  c.modifyRows x y 1 (Cell.put ⟨[symbol], s⟩) n

/-- Draws the title into a row. -/
def drawTitle (b : Block) (c : Canvas) (a : Area) : Canvas :=
  let a := (a.row 0).takeColumns b.title.width
  (c.restyle a b.titleStyle).drawLine a b.title

/-- Draws the border of an area. -/
def draw (b : Block) (c : Canvas) (a : Area) : Canvas :=
  if a.isEmpty then c
  else
    let c := drawDown c a.x a.y a.height '│' b.style
    let c := drawAcross c a.x a.y a.width '─' b.style
    let c := drawDown c (a.right - 1) a.y a.height '│' b.style
    let c := drawAcross c a.x (a.bottom - 1) a.width '─' b.style
    let c := c.drawSymbol (a.right - 1) (a.bottom - 1) '┘' b.style
    let c := c.drawSymbol (a.right - 1) a.y '┐' b.style
    let c := c.drawSymbol a.x (a.bottom - 1) '└' b.style
    let c := c.drawSymbol a.x a.y '┌' b.style
    b.drawTitle c ((a.dropColumns 1).takeColumns (a.width - 2))

/-- Draws the upper side alone. -/
def drawRule (b : Block) (c : Canvas) (a : Area) : Canvas :=
  if a.isEmpty then c
  else b.drawTitle (drawAcross c a.x a.y a.width '─' b.style) a

end Block

end DefectCatalog.Screen
