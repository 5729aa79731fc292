/-!
# Colours and styles

A colour is one of the terminal's own or a mixture of red, green and blue.  A
style says what it changes about a cell and leaves the rest alone.
-/

namespace DefectCatalog.Screen

/-- A colour of the terminal. -/
inductive Color where
  /-- The terminal's own choice. -/
  | reset
  | black
  | red
  | green
  | yellow
  | blue
  | magenta
  | cyan
  | gray
  | darkGray
  | lightRed
  | lightGreen
  | lightYellow
  | lightBlue
  | lightMagenta
  | lightCyan
  | white
  | rgb (red green blue : UInt8)
deriving DecidableEq, Repr, Inhabited

/-- What a style changes: colours, and whether it makes text bold or italic. -/
structure Style where
  fg : Option Color := none
  bg : Option Color := none
  bold : Bool := false
  italic : Bool := false
deriving DecidableEq, Repr, Inhabited

namespace Style

/-- The style that changes nothing. -/
def plain : Style := {}

/-- The style of a foreground colour. -/
def ofColor (c : Color) : Style := { fg := some c }

/-- The style, made bold. -/
def asBold (s : Style) : Style := { s with bold := true }

/-- The style, made italic. -/
def asItalic (s : Style) : Style := { s with italic := true }

/-- The style on a background. -/
def onColor (s : Style) (c : Color) : Style := { s with bg := some c }

/-- The style `lower`, changed further by `upper`. -/
def layer (lower upper : Style) : Style where
  fg := upper.fg <|> lower.fg
  bg := upper.bg <|> lower.bg
  bold := lower.bold || upper.bold
  italic := lower.italic || upper.italic

end Style

end DefectCatalog.Screen
