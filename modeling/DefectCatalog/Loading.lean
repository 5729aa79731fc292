import DefectCatalog.Document
import DefectCatalog.Files
import DefectCatalog.Source

/-!
# Loading documents

A document is fetched from its source and read.  An error of the reading is
told with the source it was read from.
-/

namespace DefectCatalog

variable {m : Type → Type} [Monad m] [Files m]

/-- The text of a document; remote documents are not fetched. -/
def Source.fetch (source : Source) : m (Except CatalogError String) :=
  match source with
  | .file path => do
    match ← Files.readText path with
    | .ok text => return .ok text
    | .error fault => return .error (.ioAt path fault.message)
  | .remote url => return .error (.load "Fetching document" (.remoteDisabled url))

/-- Reads a fetched text, and tells an error with its source. -/
def Source.read {α : Type} (source : Source) (reader : String → Except CatalogError α)
    (text : String) : Except CatalogError α :=
  (reader text).mapError (·.inContext ("reading " ++ source.text))

/-- Fetches and reads a document. -/
def Source.load {α : Type} (source : Source) (reader : String → Except CatalogError α) :
    m (Except CatalogError α) := do
  match ← source.fetch with
  | .ok text => return source.read reader text
  | .error e => return .error e

/-- The bug list of a source. -/
def loadRecords (source : Source) : m (Except CatalogError (List Record)) :=
  source.load readRecords

/-- The classification of a source. -/
def loadTaxonomy (source : Source) : m (Except CatalogError Taxonomy) :=
  source.load readTaxonomy

end DefectCatalog
