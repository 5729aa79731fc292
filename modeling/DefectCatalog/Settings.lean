import DefectCatalog.Column
import DefectCatalog.Filters
import DefectCatalog.Report.Format
import DefectCatalog.Sorting
import DefectCatalog.Source

/-!
# Settings

What a reader of the catalog can configure, in four sections: where the
documents are, how the list starts, how reports are written, and how the
screen looks.  Every setting has a default.
-/

namespace DefectCatalog

/-- Where the documents are. -/
structure DataSettings where
  bugs : String := "data/bugs.json"
  classification : String := "data/classification.json"
  /-- The time limit for remote documents, in seconds. -/
  timeout : UInt64 := 30
deriving DecidableEq, Repr

/-- How the list starts. -/
structure BrowseSettings where
  sort : List String := ["project", "commit"]
  reverse : Bool := false
  mode : Matching := .all
  showWelcome : Bool := true
  columns : List Column := Column.defaults
deriving DecidableEq, Repr

/-- How reports are written. -/
structure OutputSettings where
  format : OutputFormat := .auto
  /-- The file a report is written to, instead of standard output. -/
  file : Option String := none
  plain : Bool := false
deriving DecidableEq, Repr

/-- How the screen looks. -/
structure ScreenSettings where
  theme : String := "dark"
  mouse : Bool := true
deriving DecidableEq, Repr

/-- All settings. -/
structure Settings where
  data : DataSettings := {}
  browse : BrowseSettings := {}
  output : OutputSettings := {}
  screen : ScreenSettings := {}
deriving DecidableEq, Repr

instance : Inhabited Settings := ⟨{}⟩

/-- Where the bug list is. -/
def DataSettings.bugSource (d : DataSettings) : Source :=
  .ofString d.bugs

/-- Where the classification is. -/
def DataSettings.taxonomySource (d : DataSettings) : Source :=
  .ofString d.classification

/-- The sort that the list starts with. -/
def BrowseSettings.sorting (b : BrowseSettings) : Sorting :=
  { fields := b.sort, reverse := b.reverse }

end DefectCatalog
