import DefectCatalog.Screen.Canvas
import DefectCatalog.Text.Blank

/-!
# Paragraphs

Lines drawn below each other.  A line that is too long is cut at the right, or
wrapped: a word moves to the next line, the blanks at the break are dropped as
far as they would have filled the line, and a word longer than a line is split.
-/

namespace DefectCatalog.Screen

/-- The glyphs at the start of a line that fit; those wider than the whole line are left out. -/
def cutGlyphs (limit : Nat) (used : Nat) : List Glyph → List Glyph
  | [] => []
  | g :: rest =>
    if g.width > limit then cutGlyphs limit used rest
    else if used + g.width > limit then []
    else g :: cutGlyphs limit (used + g.width) rest

/-- The cells that glyphs take. -/
def glyphsWidth (gs : List Glyph) : Nat :=
  gs.foldr (fun g total => g.width + total) 0

/-- Whether a line may be broken at a glyph. -/
def Glyph.isBreak (g : Glyph) : Bool :=
  g.symbol == ['\u200b'] || (g.symbol.all Text.isBlank && g.symbol != ['\u00a0'])

/-- The state of wrapping a line. -/
structure Wrapping where
  /-- The lines that are complete. -/
  done : List (List Glyph) := []
  /-- The line being filled. -/
  line : List Glyph := []
  /-- The blanks after it. -/
  blanks : List Glyph := []
  /-- The word after those. -/
  word : List Glyph := []
  /-- Whether the last glyph belongs to a word. -/
  inWord : Bool := false

namespace Wrapping

/-- Moves the blanks and the word into the line. -/
def settle (w : Wrapping) : Wrapping :=
  { w with line := w.line ++ w.blanks ++ w.word, blanks := [], word := [] }

/-- Drops blanks as far as they fit into the rest of a line. -/
def dropBlanks (room : Nat) : List Glyph → List Glyph
  | [] => []
  | g :: rest => if g.width > room then g :: rest else dropBlanks (room - g.width) rest

/-- Completes the line. -/
def breakLine (limit : Nat) (w : Wrapping) : Wrapping :=
  { w with
    done := w.done ++ [w.line]
    line := []
    blanks := dropBlanks (limit - glyphsWidth w.line) w.blanks }

/-- Adds a glyph to the blanks or to the word. -/
def add (w : Wrapping) (g : Glyph) : Wrapping :=
  if g.isBreak then { w with blanks := w.blanks ++ [g], inWord := false }
  else { w with word := w.word ++ [g], inWord := true }

/-- Takes the next glyph of the line. -/
def step (limit : Nat) (w : Wrapping) (g : Glyph) : Wrapping :=
  if g.width > limit then w
  else
    let overflows := w.line.isEmpty && glyphsWidth w.word + glyphsWidth w.blanks + g.width > limit
    let w := if (w.inWord && g.isBreak) || overflows then w.settle else w
    let used := glyphsWidth w.line
    let full := used ≥ limit ||
      (g.width > 0 && used + glyphsWidth w.blanks + glyphsWidth w.word ≥ limit)
    if full then
      let w := w.breakLine limit
      if g.isBreak && w.blanks.isEmpty then w else w.add g
    else w.add g

/-- Completes what is left. -/
def finish (w : Wrapping) : List (List Glyph) :=
  let lead := if w.line.isEmpty && w.word.isEmpty && !w.blanks.isEmpty then [[]] else []
  let last := w.line ++ w.blanks ++ w.word
  let all := w.done ++ lead ++ if last.isEmpty then [] else [last]
  if all.isEmpty then [[]] else all

end Wrapping

/-- The lines that a line is wrapped into. -/
def wrapGlyphs (limit : Nat) (gs : List Glyph) : List (List Glyph) :=
  (gs.foldl (Wrapping.step limit) {}).finish

/-- How the lines of a paragraph stand. -/
inductive Alignment where
  | left
  | center
deriving DecidableEq, Repr

/-- The column that a line starts in. -/
def Alignment.offset (alignment : Alignment) (lineWidth areaWidth : Nat) : Nat :=
  match alignment with
  | left => 0
  | center => areaWidth / 2 - lineWidth / 2

namespace Canvas

/-- Draws glyphs from a place on; those without a cell of their own are left out. -/
def drawRun (c : Canvas) (x y : Nat) : List Glyph → Canvas
  | [] => c
  | g :: rest =>
    if g.width = 0 then c.drawRun x y rest
    else (c.modify x y (Cell.put g)).drawRun (x + g.width) y rest

/-- Draws lines below each other, as many as fit. -/
def drawRuns (c : Canvas) (a : Area) (alignment : Alignment) : List (List Glyph) → Canvas
  | [] => c
  | gs :: rest =>
    if a.height = 0 then c
    else
      let x := a.x + alignment.offset (glyphsWidth gs) a.width
      (c.drawRun x a.y gs).drawRuns { a with y := a.y + 1, height := a.height - 1 } alignment rest

/-- Draws lines, each cut at the right. -/
def drawCut (c : Canvas) (a : Area) (lines : List Line) (alignment : Alignment := .left) :
    Canvas :=
  if a.isEmpty then c
  else c.drawRuns a alignment ((lines.take a.height).map fun l => cutGlyphs a.width 0 l.glyphs)

/-- Draws lines, each wrapped. -/
def drawWrapped (c : Canvas) (a : Area) (lines : List Line) : Canvas :=
  if a.isEmpty then c
  else c.drawRuns a .left (lines.flatMap fun l => wrapGlyphs a.width l.glyphs)

end Canvas

end DefectCatalog.Screen
