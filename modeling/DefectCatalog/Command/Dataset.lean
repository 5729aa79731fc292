import DefectCatalog.Command.Outcome
import DefectCatalog.Loading
import DefectCatalog.Settings

/-!
# The documents of a command

The bug list has to be there.  A classification that cannot be loaded is
replaced by an empty one, unless it is what the command is about.
-/

namespace DefectCatalog.Command

variable {m : Type → Type} [Monad m] [Files m]

/-- The bug list that the settings name. -/
def bugList (data : DataSettings) : Attempt m (List Record) := do
  match ← (loadRecords data.bugSource : m _) with
  | .ok records => return records
  | .error cause => throw (.bugsNotLoaded data.bugs cause)

/-- The classification that the settings name, or the empty one. -/
def classificationOrEmpty (data : DataSettings) : Attempt m Taxonomy := do
  match ← (loadTaxonomy data.taxonomySource : m _) with
  | .ok taxonomy => return taxonomy
  | .error _ => return .empty

/-- The classification that the settings name. -/
def classification (data : DataSettings) : Attempt m Taxonomy := do
  match ← (loadTaxonomy data.taxonomySource : m _) with
  | .ok taxonomy => return taxonomy
  | .error cause => throw (.classificationNotLoaded data.classification cause)

end DefectCatalog.Command
