import DefectCatalog.Screen.Style
import DefectCatalog.Text.Cluster
import DefectCatalog.Text.Lines

/-!
# Styled text

A line of the screen is made of spans, each a text in one style.
-/

namespace DefectCatalog.Screen

/-- A text in one style. -/
structure Span where
  text : String
  style : Style := .plain
deriving DecidableEq, Repr

/-- Spans next to each other, on a style of the whole line. -/
structure Line where
  spans : List Span
  style : Style := .plain
deriving DecidableEq, Repr

/-- A cluster of characters in a style. -/
structure Glyph where
  symbol : List Char
  style : Style
deriving DecidableEq, Repr

/-- The cells that a glyph takes. -/
def Glyph.width (g : Glyph) : Nat :=
  Text.cells g.symbol

/-- The cells that a span takes. -/
def Span.width [Text.Measure] (s : Span) : Nat :=
  Text.width s.text

/-- The glyphs of a span on a style; line feeds are not shown. -/
def Span.glyphs (under : Style) (s : Span) : List Glyph :=
  ((Text.clusters s.text.toList).filter (· != ['\n'])).map fun c => ⟨c, under.layer s.style⟩

namespace Line

/-- A line without text. -/
def empty : Line := ⟨[], .plain⟩

/-- A text as a line in one style; the lines of the text follow each other. -/
def styled (text : String) (style : Style) : Line :=
  ⟨(Text.lines text).map fun t => ⟨t, .plain⟩, style⟩

/-- A text as a line. -/
def ofText (text : String) : Line :=
  styled text .plain

/-- Spans as a line. -/
def ofSpans (spans : List Span) : Line :=
  ⟨spans, .plain⟩

/-- The cells that a line takes. -/
def width [Text.Measure] (l : Line) : Nat :=
  l.spans.foldr (fun s total => s.width + total) 0

/-- The glyphs of a line. -/
def glyphs (l : Line) : List Glyph :=
  l.spans.flatMap (Span.glyphs l.style)

end Line

end DefectCatalog.Screen
