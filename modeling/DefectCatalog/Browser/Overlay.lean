/-!
# Overlays

A panel that covers the screen, of which at most one is shown.
-/

namespace DefectCatalog.Browser

/-- A panel that covers the screen. -/
inductive Panel where
  | welcome
  | help
deriving DecidableEq, Repr

/-- The panel that is shown, if one is. -/
structure Overlay where
  panel : Option Panel := none
deriving DecidableEq, Repr, Inhabited

namespace Overlay

/-- Whether a panel is shown. -/
def isShown (o : Overlay) : Bool := o.panel.isSome

/-- Whether this panel is shown. -/
def shows (o : Overlay) (p : Panel) : Bool := o.panel = some p

/-- Shows a panel in the place of any other. -/
def display (_ : Overlay) (p : Panel) : Overlay := ⟨some p⟩

/-- Shows no panel. -/
def close (_ : Overlay) : Overlay := ⟨none⟩

/-- Closes the panel if it is shown, and shows it if it is not. -/
def toggle (o : Overlay) (p : Panel) : Overlay :=
  if o.shows p then o.close else o.display p

end Overlay

end DefectCatalog.Browser
