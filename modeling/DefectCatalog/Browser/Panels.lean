import DefectCatalog.Screen.Block
import DefectCatalog.Screen.Paragraph
import DefectCatalog.Theme.Palette

/-!
# Panels

The panels that cover the screen, and what stands in for a list without rows.
-/

namespace DefectCatalog.Browser.Panels

open Screen

/-- Draws a panel of given percentages in the middle of an area. -/
def draw (c : Canvas) (a : Area) (title : String) (lines : List Line) (percentX percentY : Nat)
    (color : Color) : Canvas :=
  let a := a.centered percentX percentY
  let block : Block :=
    { title := .ofText (" " ++ title ++ " "), titleStyle := (Style.ofColor color).asBold
      style := .ofColor color }
  (block.draw (c.clear a) a).drawWrapped (Block.inside a) lines

/-- A key with what it does. -/
def shortcutLine (p : Palette) (key action : String) : Line :=
  .ofSpans [⟨"  " ++ Text.padRight 15 key, p.keyStyle⟩, ⟨action, p.textStyle⟩]

/-- The lines of the help panel. -/
def helpLines (p : Palette) : List Line :=
  let heading := fun (text : String) => Line.styled text p.headingStyle
  let key := shortcutLine p
  [heading "Bug list",
    key "↑/↓ or j/k" "Move the cursor",
    key "PgUp/PgDown" "Move by a page",
    key "g/G" "First/last bug",
    key "Enter" "Open the selected bug",
    key "s" "Sort by the next column",
    key "r" "Reverse the current sort",
    key "Tab" "Switch between list and filters",
    .empty,
    heading "Filters",
    key "Space/Enter" "Toggle the filter under the cursor",
    key "m" "Match all / any active filter",
    key "c" "Clear all filters",
    .empty,
    heading "Bug detail",
    key "→/l" "Next bug",
    key "←/h" "Previous bug",
    key "↑/↓ or j/k" "Scroll the patch",
    key "Esc/q" "Close",
    .empty,
    heading "Anywhere",
    key "b/Backspace" "Back to the previous view",
    key "T" "Cycle theme",
    key "?" "Toggle this help",
    key "q / Ctrl+C" "Quit"]

/-- Draws the help panel. -/
def drawHelp (c : Canvas) (p : Palette) : Canvas :=
  draw c c.area "Help" (helpLines p) 60 90 p.accent

/-- The lines of the welcome panel. -/
def welcomeLines (p : Palette) : List Line :=
  [.styled "Welcome to the defects browser" p.titleStyle,
    .empty,
    .styled ("Browse a benchmark of real bug fixes: filter them by repair action, " ++
      "repair pattern or the tools that repaired them, sort the list by any " ++
      "column and open a bug to read its classification and patch.") p.textStyle,
    .empty,
    .styled "Press any key to start, ? for help." p.mutedStyle]

/-- Draws the welcome panel. -/
def drawWelcome (c : Canvas) (p : Palette) : Canvas :=
  draw c c.area "Defects" (welcomeLines p) 60 40 p.primary

/-- Draws a message in the place of rows. -/
def drawEmpty (c : Canvas) (p : Palette) (a : Area) (message : String) (hint : Option String) :
    Canvas :=
  let advice := match hint with
    | some text => [.empty, .styled text p.mutedStyle.asItalic]
    | none => []
  let lines := [.empty, .styled message p.mutedStyle] ++ advice
  (({ style := p.borderStyle } : Block).draw c a).drawCut (Block.inside a) lines .center

/-- Draws the message that the screen is too small. -/
def drawTooSmall (c : Canvas) (p : Palette) : Canvas :=
  let size := fun (w h : Nat) => toString w ++ "x" ++ toString h
  c.drawCut c.area
    [.styled "Terminal too small" (Style.ofColor p.warning).asBold,
      .empty,
      .ofSpans [⟨"Current: ", .plain⟩, ⟨size c.width c.height, p.textStyle⟩],
      .ofSpans [⟨"Required: ", .plain⟩,
        ⟨size smallestWidth smallestHeight, .ofColor p.accent⟩]] .center

end DefectCatalog.Browser.Panels
