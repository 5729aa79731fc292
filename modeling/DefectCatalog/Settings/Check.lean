import DefectCatalog.Path
import DefectCatalog.Settings
import DefectCatalog.Text.Blank
import DefectCatalog.Theme

/-!
# Checking settings

What can be wrong with settings that were read, as faults.  Whether a directory
exists is for the caller to say; `outputDirectory?` names the one that matters.
-/

namespace DefectCatalog

/-- What is wrong with a setting. -/
inductive SettingsFault where
  | noBugs
  | noClassification
  | timeoutOutOfRange (seconds : UInt64)
  | noSortField
  | emptySortField
  | noColumn
  /-- The column at a position has no field to sort by. -/
  | columnWithoutField (position : Nat) (title : String)
  /-- The column at a position has no width. -/
  | columnWithoutWidth (position : Nat)
  | noOutputDirectory (path : String)
  | unknownTheme (name : String)
deriving DecidableEq, Repr

namespace SettingsFault

/-- The setting that is wrong. -/
def field : SettingsFault → String
  | noBugs => "data.bugs"
  | noClassification => "data.classification"
  | timeoutOutOfRange _ => "data.timeout_secs"
  | noSortField | emptySortField => "browse.sort"
  | noColumn => "browse.columns"
  | columnWithoutField position _ => "browse.columns[" ++ toString position ++ "].sort"
  | columnWithoutWidth position => "browse.columns[" ++ toString position ++ "].width"
  | noOutputDirectory _ => "output.file"
  | unknownTheme _ => "tui.theme"

/-- What is wrong with it. -/
def message : SettingsFault → String
  | noBugs => "Bug list location is empty"
  | noClassification => "Classification location is empty"
  | timeoutOutOfRange seconds =>
    "Timeout must be between 1 and 600 seconds, got " ++ toString seconds.toNat
  | noSortField => "At least one sort field is required"
  | emptySortField => "Sort fields must not be empty"
  | noColumn => "At least one column is required"
  | columnWithoutField _ title => "Column '" ++ title ++ "' has no sort field"
  | columnWithoutWidth _ => "Column width must be at least 1"
  | noOutputDirectory path => "Parent directory does not exist: " ++ path
  | unknownTheme name =>
    "Invalid theme '" ++ name ++ "'. Valid options: " ++
      Text.joined ", " (Theme.all.map Theme.name)

/-- The setting and what is wrong with it. -/
def text (f : SettingsFault) : String :=
  f.field ++ ": " ++ f.message

end SettingsFault

namespace Settings

/-- Whether a text has nothing but blanks. -/
def isBlankText (s : String) : Bool :=
  s.toList.all Text.isBlank

/-- The shortest and the longest time limit, in seconds. -/
def timeoutRange : Nat × Nat := (1, 600)

/-- The faults of the section on documents. -/
def dataFaults (d : DataSettings) : List SettingsFault :=
  (if isBlankText d.bugs then [.noBugs] else []) ++
    (if isBlankText d.classification then [.noClassification] else []) ++
    (if timeoutRange.1 ≤ d.timeout.toNat && d.timeout.toNat ≤ timeoutRange.2 then []
      else [.timeoutOutOfRange d.timeout])

/-- The faults of the column at a position. -/
def columnFaults (position : Nat) (c : Column) : List SettingsFault :=
  (if isBlankText c.field then [.columnWithoutField position c.title] else []) ++
    (if c.width = 0 then [.columnWithoutWidth position] else [])

/-- The faults of the section on the list. -/
def browseFaults (b : BrowseSettings) : List SettingsFault :=
  (if b.sort.isEmpty then [.noSortField]
    else if b.sort.any isBlankText then [.emptySortField] else []) ++
    (if b.columns.isEmpty then [.noColumn] else []) ++
    b.columns.zipIdx.flatMap fun c => columnFaults c.2 c.1

/-- The directory that the output file stands in, if the settings name one. -/
def outputDirectory? (s : Settings) : Option String :=
  match s.output.file.bind Path.parent? with
  | some "" => none
  | directory => directory

/-- The faults of the section on reports. -/
def outputFaults (s : Settings) (exists? : String → Bool) : List SettingsFault :=
  match s.outputDirectory? with
  | some path => if exists? path then [] else [.noOutputDirectory path]
  | none => []

/-- The faults of the section on the screen. -/
def screenFaults (s : ScreenSettings) : List SettingsFault :=
  if (Theme.ofName? s.theme).isSome then [] else [.unknownTheme s.theme]

/-- All faults, in the order of the sections; `exists?` tells whether a directory is there. -/
def faults (s : Settings) (exists? : String → Bool) : List SettingsFault :=
  dataFaults s.data ++ browseFaults s.browse ++ outputFaults s exists? ++ screenFaults s.screen

end Settings

end DefectCatalog
