/-!
# Texts cut to fit

A text is cut to a number of characters, or to a number of terminal cells.  The
second is decided with the width of the text as a whole, and the place to cut is
found with the widths of its characters one by one; a `Measure` gives both.
-/

namespace DefectCatalog.Text

/-- How many terminal cells texts and characters take. -/
class Measure where
  /-- The cells of a text as a whole. -/
  width : String → Nat
  /-- The cells of a character by itself; a control character has none. -/
  charWidth : Char → Nat

export Measure (width charWidth)

/-- The longest beginning of a text whose characters' own widths add up to at most `budget`. -/
def takeCells [Measure] (budget : Nat) : List Char → List Char
  | [] => []
  | c :: rest =>
    if charWidth c ≤ budget then c :: takeCells (budget - charWidth c) rest else []

/-- A text cut to at most `max` characters, marked by three points if it was cut and they fit. -/
def truncateChars (s : String) (max : Nat) : String :=
  if s.length ≤ max then s
  else if max ≤ 3 then String.ofList (s.toList.take max)
  else String.ofList (s.toList.take (max - 3)) ++ "..."

/-- A text cut to `max` cells, marked by three points if it was cut and they fit. -/
def truncateCells [Measure] (s : String) (max : Nat) : String :=
  if width s ≤ max then s
  else if max ≤ 3 then String.ofList (takeCells max s.toList)
  else String.ofList (takeCells (max - 3) s.toList) ++ "..."

end DefectCatalog.Text
