import DefectCatalog.Theme.Palette

/-!
# Hints

The keys that the footer names, and the spans that show them.
-/

namespace DefectCatalog.Browser

open Screen

/-- A key with what it does. -/
structure Hint where
  key : String
  action : String
deriving DecidableEq, Repr

namespace Hint

/-- Hints that always hold. -/
def everywhere : List Hint :=
  [⟨"Tab", "focus"⟩, ⟨"m", "match all/any"⟩, ⟨"c", "clear"⟩, ⟨"T", "theme"⟩, ⟨"?", "help"⟩,
    ⟨"q", "quit"⟩]

/-- Hints while the list has the focus. -/
def list : List Hint :=
  [⟨"↑↓/jk", "navigate"⟩, ⟨"Enter", "open"⟩, ⟨"s", "sort column"⟩, ⟨"r", "reverse"⟩] ++ everywhere

/-- Hints while the sidebar has the focus. -/
def filters : List Hint :=
  [⟨"↑↓/jk", "move"⟩, ⟨"Space", "toggle filter"⟩] ++ everywhere

/-- Hints while a bug is open. -/
def detail : List Hint :=
  [⟨"←/h", "previous"⟩, ⟨"→/l", "next"⟩, ⟨"↑↓/jk", "scroll patch"⟩, ⟨"b", "back"⟩, ⟨"Esc", "close"⟩,
    ⟨"T", "theme"⟩, ⟨"?", "help"⟩]

/-- The spans of a hint. -/
def spans (p : Palette) (h : Hint) : List Span :=
  [⟨"[" ++ h.key ++ "]", p.keyStyle⟩, ⟨h.action, p.keyTextStyle⟩]

/-- Hints in a row. -/
def row (p : Palette) (hints : List Hint) : List Span :=
  List.intercalate [⟨" ", .plain⟩] (hints.map (spans p))

end Hint

end DefectCatalog.Browser
