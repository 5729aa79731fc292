import DefectCatalog.Report.Listing
import DefectCatalog.Report.Parts
import DefectCatalog.Text.Case
import DefectCatalog.Text.Width

/-!
# Tables

A listing in aligned columns, and one bug as a table of its members.  A cell
is cut and padded to its width before it is tinted, so colours do not move the
columns.
-/

namespace DefectCatalog.Report.Table

/-- A text cut and padded to a width. -/
def cell (text : String) (width : Nat) (tint : Tint := .plain) : Fragment :=
  ⟨Text.padRight width (Text.truncateChars text width), tint⟩

/-- Cells with a space between any two. -/
def row (cells : List Fragment) : Line :=
  ⟨cells.intersperse ⟨" ", .plain⟩, true⟩

/-- The titles of the columns. -/
def header (columns : List Column) : Line :=
  row (columns.map fun c => cell (Text.upper c.title) c.width.toNat .bold)

/-- The cells of a record. -/
def recordRow (columns : List Column) (r : Record) : Line :=
  row (columns.map fun c =>
    cell (c.textOf r) c.width.toNat (if c.field = "project" then .cyan else .plain))

/-- The width of all columns with the spaces between them. -/
def fullWidth (columns : List Column) : Nat :=
  columns.foldr (fun c total => c.width.toNat + total) 0 + (columns.length - 1)

/-- Tells how many records are not shown, if any. -/
def moreLine (l : Listing) (o : Options) : List Line :=
  match o.limit with
  | some n =>
    if n < l.records.length then
      [.ofTint ("... and " ++ toString (l.records.length - n) ++ " more bugs") .dim]
    else []
  | none => []

/-- The filters in force, in a few words. -/
def filterText (l : Listing) : String :=
  if l.filters.isEmpty then "none"
  else Text.joined ", " l.filters ++ " (" ++ l.mode.name ++ ")"

/-- The totals of a listing. -/
def totals (l : Listing) : String :=
  "Total: " ++ toString l.records.length ++ " of " ++ toString l.total ++ " bugs | Sort: " ++
    l.sort.describe ++ " | Filters: " ++ filterText l

/-- A listing in aligned columns. -/
def listing (l : Listing) (o : Options) : List Line :=
  header o.columns :: .ofText (rule (fullWidth o.columns)) ::
    (l.shown o).map (recordRow o.columns) ++ moreLine l o ++ [.blank, .ofText (totals l)]

/-- The text of a member: a string as it is, everything else as JSON. -/
def memberText : Json.Value → String
  | .string s => s
  | v => v.compact

/-- A name beside a value. -/
def member (name : String) (tint : Tint) (value : String) : Line :=
  ⟨[cell name 24 tint, ⟨" " ++ value, .plain⟩], false⟩

/-- One bug as a table of its members. -/
def bug (r : Record) (t : Taxonomy) (o : Options) : List Line :=
  [⟨[cell "FIELD" 24 .bold, ⟨" ", .plain⟩, ⟨"VALUE", .bold⟩], false⟩,
    .ofText (rule 60),
    member "project" .cyan r.project,
    member "commit" .cyan r.commit] ++
  r.fields.entries.map (fun e => member (t.label e.1) .plain (memberText e.2)) ++
  .blank :: flagsByCategory t r ++ patchPart o.showPatch r

end DefectCatalog.Report.Table
