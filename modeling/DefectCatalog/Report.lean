import DefectCatalog.Report.Format
import DefectCatalog.Report.Structured
import DefectCatalog.Report.Summary
import DefectCatalog.Report.Table

/-!
# Reports

The text of a report of each kind, on a listing and on one bug.
-/

namespace DefectCatalog.ReportKind

/-- The text of a structured value. -/
def jsonText (pretty : Bool) (v : Json.Value) : String :=
  if pretty then v.pretty else v.compact

/-- The report on a listing. -/
def listing (k : ReportKind) (l : Report.Listing) (o : Report.Options) : String :=
  match k with
  | summary colored => Report.render colored (Report.Summary.listing l)
  | table colored => Report.render colored (Report.Table.listing l o)
  | json pretty => jsonText pretty (Report.Structured.listing l o)

/-- The report on one bug. -/
def bug (k : ReportKind) (r : Record) (t : Taxonomy) (o : Report.Options) : String :=
  match k with
  | summary colored => Report.render colored (Report.Summary.bug r t o)
  | table colored => Report.render colored (Report.Table.bug r t o)
  | json pretty => jsonText pretty (Report.Structured.bug r t o)

end DefectCatalog.ReportKind
