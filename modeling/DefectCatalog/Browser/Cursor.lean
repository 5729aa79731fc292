/-!
# Cursors

A cursor selects a row of a list whose length changes.  It stops at both ends,
and rests on zero while the list is empty.
-/

namespace DefectCatalog.Browser

/-- A selected row of so many. -/
structure Cursor where
  selected : Nat := 0
  total : Nat := 0
deriving DecidableEq, Repr, Inhabited

namespace Cursor

/-- The rows that a page holds. -/
def page : Nat := 10

/-- The last row, if there is one. -/
def last? (c : Cursor) : Option Nat :=
  if c.total = 0 then none else some (c.total - 1)

/-- Selects a row, or the last one if it is beyond the end. -/
def select (c : Cursor) (row : Nat) : Cursor :=
  { c with selected := min row (c.total - 1) }

/-- Takes a new length and stays on a row. -/
def resize (c : Cursor) (total : Nat) : Cursor :=
  { c with total }.select c.selected

/-- Moves by so many rows, down or up. -/
def move (c : Cursor) (rows : Int) : Cursor :=
  c.select (c.selected + rows).toNat

/-- Moves to the next row. -/
def next (c : Cursor) : Cursor := c.move 1

/-- Moves to the row before. -/
def previous (c : Cursor) : Cursor := c.move (-1)

/-- Moves a page down. -/
def pageDown (c : Cursor) : Cursor := c.move page

/-- Moves a page up. -/
def pageUp (c : Cursor) : Cursor := c.move (-page)

/-- Moves to the first row. -/
def first (c : Cursor) : Cursor := { c with selected := 0 }

/-- Moves to the last row. -/
def last (c : Cursor) : Cursor := c.select c.total

end Cursor

end DefectCatalog.Browser
