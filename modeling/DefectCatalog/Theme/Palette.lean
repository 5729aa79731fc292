import DefectCatalog.Screen.Text
import DefectCatalog.Taxonomy
import DefectCatalog.Theme

/-!
# Palettes

The colours of a theme by what they are for, and the styles made of them.
-/

namespace DefectCatalog

open Screen

/-- The colours of a theme. -/
structure Palette where
  added : Color
  removed : Color
  hunk : Color
  fileHeader : Color
  action : Color
  pattern : Color
  runtime : Color
  primary : Color
  secondary : Color
  accent : Color
  muted : Color
  border : Color
  borderFocused : Color
  background : Color
  backgroundAlt : Color
  text : Color
  textMuted : Color
  selection : Color
  highlight : Color
  success : Color
  warning : Color
  error : Color
  /-- The colour of dark letters on a coloured ground. -/
  badgeDark : Color
  /-- The colour of light letters on a coloured ground. -/
  badgeLight : Color
  addedGround : Color
  removedGround : Color
deriving DecidableEq, Repr

namespace Palette

/-- Light colours for a dark terminal. -/
def dark : Palette where
  added := .green
  removed := .red
  hunk := .cyan
  fileHeader := .white
  action := .yellow
  pattern := .magenta
  runtime := .blue
  primary := .cyan
  secondary := .blue
  accent := .yellow
  muted := .darkGray
  border := .darkGray
  borderFocused := .cyan
  background := .reset
  backgroundAlt := .rgb 30 30 40
  text := .white
  textMuted := .gray
  selection := .darkGray
  highlight := .yellow
  success := .green
  warning := .yellow
  error := .red
  badgeDark := .black
  badgeLight := .white
  addedGround := .rgb 30 80 30
  removedGround := .rgb 80 30 30

/-- Dark colours for a light terminal. -/
def light : Palette where
  added := .rgb 0 128 0
  removed := .rgb 200 0 0
  hunk := .rgb 0 128 128
  fileHeader := .rgb 30 30 30
  action := .rgb 180 140 0
  pattern := .rgb 128 0 128
  runtime := .rgb 0 0 200
  primary := .rgb 0 100 150
  secondary := .rgb 0 0 150
  accent := .rgb 180 140 0
  muted := .rgb 150 150 150
  border := .rgb 180 180 180
  borderFocused := .rgb 0 100 150
  background := .rgb 255 255 255
  backgroundAlt := .rgb 240 240 245
  text := .rgb 30 30 30
  textMuted := .rgb 100 100 100
  selection := .rgb 200 220 240
  highlight := .rgb 180 140 0
  success := .rgb 0 128 0
  warning := .rgb 180 140 0
  error := .rgb 200 0 0
  badgeDark := .rgb 30 30 30
  badgeLight := .white
  addedGround := .rgb 200 255 200
  removedGround := .rgb 255 200 200

/-- Bright colours that differ much. -/
def highContrast : Palette where
  added := .lightGreen
  removed := .lightRed
  hunk := .lightCyan
  fileHeader := .white
  action := .lightYellow
  pattern := .lightMagenta
  runtime := .lightBlue
  primary := .lightCyan
  secondary := .lightBlue
  accent := .lightYellow
  muted := .gray
  border := .white
  borderFocused := .lightCyan
  background := .black
  backgroundAlt := .rgb 20 20 20
  text := .white
  textMuted := .gray
  selection := .white
  highlight := .lightYellow
  success := .lightGreen
  warning := .lightYellow
  error := .lightRed
  badgeDark := .black
  badgeLight := .white
  addedGround := .rgb 30 100 30
  removedGround := .rgb 100 30 30

/-- The colour of a category of the taxonomy. -/
def ofCategory (p : Palette) (category : String) : Color :=
  if category = Taxonomy.repairActions then p.action
  else if category = Taxonomy.repairPatterns then p.pattern
  else if category = Taxonomy.runtimeInformation then p.runtime
  else p.textMuted

/-- The style of the title in the header. -/
def titleStyle (p : Palette) : Style := (Style.ofColor p.primary).asBold

/-- The style of the title of a section. -/
def headingStyle (p : Palette) : Style := (Style.ofColor p.primary).asBold

/-- The style of normal text. -/
def textStyle (p : Palette) : Style := .ofColor p.text

/-- The style of text of less weight. -/
def mutedStyle (p : Palette) : Style := .ofColor p.textMuted

/-- The style of a name before a value. -/
def labelStyle (p : Palette) : Style := .ofColor p.muted

/-- The style of a value. -/
def valueStyle (p : Palette) : Style := (Style.ofColor p.text).asBold

/-- The style of what is selected. -/
def selected (p : Palette) : Style := ((Style.ofColor p.text).onColor p.selection).asBold

/-- The style of a border. -/
def borderStyle (p : Palette) : Style := .ofColor p.border

/-- The style of the border of what has the focus. -/
def focusedBorder (p : Palette) : Style := .ofColor p.borderFocused

/-- The style of the status bar. -/
def barStyle (p : Palette) : Style := Style.plain.onColor p.backgroundAlt

/-- The style of a key in a hint. -/
def keyStyle (p : Palette) : Style := .ofColor p.accent

/-- The style of what a key does, in a hint. -/
def keyTextStyle (p : Palette) : Style := .ofColor p.textMuted

/-- The style of a number of added lines. -/
def addedStyle (p : Palette) : Style := .ofColor p.added

/-- The style of a number of removed lines. -/
def removedStyle (p : Palette) : Style := .ofColor p.removed

/-- The style of an error. -/
def errorStyle (p : Palette) : Style := .ofColor p.error

/-- The style of dark letters on a coloured ground. -/
def badge (p : Palette) (ground : Color) : Style :=
  ((Style.ofColor p.badgeDark).onColor ground).asBold

/-- A number on a coloured ground. -/
def numberBadge (p : Palette) (count : Nat) (ground : Color) : Span :=
  ⟨" " ++ toString count ++ " ", p.badge ground⟩

/-- A name with its value on a coloured ground. -/
def valueBadge (p : Palette) (label value : String) : List Span :=
  [⟨label ++ ": ", p.mutedStyle⟩, ⟨" " ++ value ++ " ", p.badge p.accent⟩]

end Palette

/-- The palette of a theme. -/
def Theme.palette : Theme → Palette
  | dark => .dark
  | light => .light
  | highContrast => .highContrast

end DefectCatalog
