import DefectCatalog.Taxonomy

/-!
# The outline of a taxonomy

Entries as lines under headings: a category is named before its first entry,
and so is each group.  Entries of one category, and of one group, stand next to
each other, so every heading comes once.
-/

namespace DefectCatalog

/-- A line of the outline; an entry comes with its position among the entries. -/
inductive OutlineRow where
  | category (name : String)
  | group (name : String)
  | entry (position : Nat) (entry : Taxonomy.Entry)
deriving DecidableEq, Repr

namespace Taxonomy

/-- The lines of an entry after an entry of the category and group `last`. -/
def outlineStep (last : Option (String × String)) (position : Nat) (e : Entry) :
    List OutlineRow :=
  (if last.map Prod.fst = some e.category then [] else [.category e.category]) ++
    (if last = some (e.category, e.group) then [] else [.group e.group]) ++
    [.entry position e]

/-- The lines of entries that stand from a position on, after the category and group `last`. -/
def outlineFrom (last : Option (String × String)) (position : Nat) : List Entry → List OutlineRow
  | [] => []
  | e :: rest =>
    outlineStep last position e ++ outlineFrom (some (e.category, e.group)) (position + 1) rest

/-- The lines of a list of entries. -/
def outline (entries : List Entry) : List OutlineRow :=
  outlineFrom none 0 entries

end Taxonomy

end DefectCatalog
