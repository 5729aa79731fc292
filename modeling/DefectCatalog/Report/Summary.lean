import DefectCatalog.Report.Listing
import DefectCatalog.Report.Parts

/-!
# Summaries

The short overview of a listing, with the filters and the number of records of
each project, and the overview of one bug.
-/

namespace DefectCatalog.Report.Summary

/-- A name in front of a value. -/
def entry (name : String) (value : List Fragment) : Line :=
  ⟨⟨name, .cyan⟩ :: ⟨"  ", .plain⟩ :: value, false⟩

/-- The filters in force. -/
def filterLines (l : Listing) : List Line :=
  if l.filters.isEmpty then [entry "Filters:" [⟨"none", .dim⟩]]
  else
    entry "Filters:" [⟨"match " ++ l.mode.name, .plain⟩] ::
      l.filters.map fun key => .ofText ("  • " ++ l.taxonomy.label key)

/-- The number of records of each project. -/
def projectLines (l : Listing) : List Line :=
  match l.perProject with
  | [] => []
  | counts =>
    .blank :: .ofTint "Projects:" .bold ::
      counts.map fun (project, n) =>
        ⟨[⟨"  " ++ Text.padRight 16 project ++ " ", .plain⟩, ⟨toString n, .green⟩], false⟩

/-- The overview of a listing. -/
def listing (l : Listing) : List Line :=
  [.ofTint "Defects Summary" .bold,
    .ofTint (rule 40) .dim,
    entry "Shown:"
      [⟨toString l.records.length ++ " of " ++ toString l.total ++ " bugs", .plain⟩],
    entry "Sort:" [⟨l.sort.describe, .plain⟩]] ++
  filterLines l ++ projectLines l ++
  if l.records.isEmpty then [.blank, .ofTint "No bugs match the current filters" .yellow] else []

/-- The overview of one bug. -/
def bug (r : Record) (t : Taxonomy) (o : Options) : List Line :=
  [.ofTint (r.project ++ " " ++ r.commit) .bold,
    .ofTint (rule 40) .dim,
    entry "Patch:" [⟨"+" ++ toString r.patchCounts.1, .green⟩, ⟨" ", .plain⟩,
      ⟨"-" ++ toString r.patchCounts.2, .red⟩],
    .blank,
    .ofTint "Classification:" .bold] ++
  flagsByCategory t r ++ patchPart o.showPatch r

end DefectCatalog.Report.Summary
