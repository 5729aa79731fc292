import DefectCatalog.Command.Dataset
import DefectCatalog.Report
import DefectCatalog.View

/-!
# Reports on bugs

The commands that report on the list of bugs and on a single bug.  A report
goes to a file or to standard output; standard output is taken for no terminal,
so the format that needs one fails.
-/

namespace DefectCatalog.Command

variable {m : Type → Type} [Monad m] [Files m]

/-- Whether reports are coloured: neither the settings nor the environment may forbid it. -/
def colored (settings : Settings) (forbidden : Bool) : Bool :=
  !settings.output.plain && !forbidden

/-- The kind of report that the settings ask for. -/
def reportKind (settings : Settings) (forbidden : Bool) : Attempt m ReportKind := do
  let format := settings.output.format.detect false
  if format = .tui then throw .noTerminal
  return .ofFormat format (colored settings forbidden)

/-- What to list. -/
structure ListOptions where
  filters : List String := []
  limit : Option Nat := none

/-- The view that the list command reports on. -/
def listView (settings : Settings) (records : List Record) (taxonomy : Taxonomy)
    (filters : List String) : View :=
  (((View.new settings.browse.sorting settings.browse.mode).setRecords records).setTaxonomy
    taxonomy).activateFilters filters

/-- Reports on the list of bugs; `forbidden` tells whether the environment forbids colours. -/
def list (settings : Settings) (forbidden : Bool) (query : ListOptions) : Attempt m Outcome := do
  let records ← bugList settings.data
  let taxonomy ← classificationOrEmpty settings.data
  let kind ← reportKind settings forbidden
  let listing := Report.Listing.ofView (listView settings records taxonomy query.filters)
  let options : Report.Options := { columns := settings.browse.columns, limit := query.limit }
  deliver settings.output.file (if listing.records.isEmpty then .noMatch else .success)
    (kind.listing listing options)

/-- Reports on the bug that a route leads to. -/
def «show» (settings : Settings) (forbidden : Bool) (route : Route) (showPatch : Bool) :
    Attempt m Outcome := do
  match route with
  | .list => throw (.noBugRoute route)
  | .bug project id =>
    let records ← bugList settings.data
    let taxonomy ← classificationOrEmpty settings.data
    match records.find? fun r => r.isAt project id with
    | none =>
      return { status := .noMatch
               errors := "No bug " ++ project ++ " " ++ id ++ " in " ++ settings.data.bugs ++ "\n" }
    | some record =>
      let kind ← reportKind settings forbidden
      deliver settings.output.file .success (kind.bug record taxonomy { showPatch })

end DefectCatalog.Command
