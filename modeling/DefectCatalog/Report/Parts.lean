import DefectCatalog.Report.Line
import DefectCatalog.Taxonomy

/-!
# Parts of bug reports

The classification and the patch of a record, as the summary and the table
show them.
-/

namespace DefectCatalog.Report

/-- A flag under its category; the key follows a label that differs from it. -/
def flagLine (f : Taxonomy.Flag) : Line :=
  if f.label = f.key then .ofText ("    • " ++ f.label)
  else ⟨[⟨"    • " ++ f.label ++ " ", .plain⟩, ⟨"(" ++ f.key ++ ")", .dim⟩], false⟩

/-- A category and its flags. -/
def groupLines (g : Taxonomy.CategoryFlags) : List Line :=
  ⟨[⟨"  ", .plain⟩, ⟨g.category, .cyan⟩], false⟩ :: g.flags.map flagLine

/-- The flags of a record by category. -/
def flagsByCategory (t : Taxonomy) (r : Record) : List Line :=
  match t.classify r with
  | [] => [⟨[⟨"  ", .plain⟩, ⟨"No classification", .dim⟩], false⟩]
  | groups => groups.flatMap groupLines

/-- The tint of a patch line, by its first characters. -/
def patchTint (line : List Char) : Tint :=
  match line with
  | '+' :: '+' :: '+' :: _ => .bold
  | '-' :: '-' :: '-' :: _ => .bold
  | '@' :: '@' :: _ => .cyan
  | '+' :: _ => .green
  | '-' :: _ => .red
  | _ => .plain

/-- The lines of a patch. -/
def diffLines (r : Record) : List Line :=
  (Text.lines r.patch).map fun s => .ofTint s (patchTint s.toList)

/-- The patch of a record after an empty line, if it is wanted and there is one. -/
def patchPart (showPatch : Bool) (r : Record) : List Line :=
  if showPatch && !r.patch.isEmpty then .blank :: diffLines r else []

end DefectCatalog.Report
