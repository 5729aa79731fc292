import DefectCatalog.Text.Case

/-!
# Themes

The themes of the screen, by name.  Settings have to name a theme exactly; the
screen itself is generous about letter case and short names.
-/

namespace DefectCatalog

/-- A theme of the screen. -/
inductive Theme where
  | dark
  | light
  | highContrast
deriving DecidableEq, Repr, Inhabited

namespace Theme

/-- Every theme, in the order in which they follow each other. -/
def all : List Theme := [dark, light, highContrast]

/-- The name of a theme. -/
def name : Theme → String
  | dark => "dark"
  | light => "light"
  | highContrast => "high-contrast"

/-- The theme with exactly this name. -/
def ofName? (s : String) : Option Theme :=
  all.find? fun t => t.name == s

/-- The theme meant by a text; one that names no theme means the dark one. -/
def ofText (s : String) : Theme :=
  let s := Text.lower s
  if s = "light" then light
  else if s = "high-contrast" || s = "highcontrast" || s = "hc" then highContrast
  else dark

/-- The theme after this one. -/
def next : Theme → Theme
  | dark => light
  | light => highContrast
  | highContrast => dark

end Theme

end DefectCatalog
