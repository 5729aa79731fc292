import DefectCatalog.Files
import DefectCatalog.Path
import DefectCatalog.Settings.Reader

/-!
# Finding the settings file

The settings file is the one that is asked for, or else the first that is found
in the current directory, at the root of the repository around it, in the
reader's directory for settings, or at home.
-/

namespace DefectCatalog

/-- What a program knows about where it runs. -/
structure Environment where
  currentDirectory : String
  home : Option String := none
  /-- The directory for settings that the reader asks for. -/
  settingsHome : Option String := none
  /-- Whether the reader wants no colours. -/
  plain : Bool := false
  bugs : Option String := none
  classification : Option String := none

namespace Environment

/-- The reader's directory for settings, of all programs; one asked for has to be absolute. -/
def settingsRoot? (e : Environment) : Option String :=
  match e.settingsHome with
  | some path => if Path.isAbsolute path then some path else usual
  | none => usual
where
  /-- The directory that is used unless another is asked for. -/
  usual : Option String := e.home.map fun h => Path.join h ".config"

/-- The reader's directory for the settings of this program. -/
def settingsDirectory? (e : Environment) : Option String :=
  e.settingsRoot?.map fun path => Path.join path "defects-browser"

end Environment

namespace Settings

/-- The names that a settings file may have, the first one being preferred. -/
def fileNames : List String :=
  [".defects-browser.yaml", ".defects-browser.yml", "defects-browser.yaml", "defects-browser.yml"]

/-- The settings file of the current directory. -/
def localFileName : String := ".defects-browser.yaml"

/-- The settings file of the reader. -/
def userFileName : String := "defects-browser.yaml"

variable {m : Type → Type} [Monad m] [Files m]

/-- The first item whose path leads to something. -/
def firstThere {α : Type} (path : α → String) : List α → m (Option α)
  | [] => return none
  | a :: rest => do
    if ← Files.isThere (path a) then return some a else firstThere path rest

/-- The settings files that a directory may hold. -/
def candidates (directory : String) : List String :=
  fileNames.map (Path.join directory)

/-- The nearest directory, from the given one upwards, that is the root of a repository. -/
def repositoryRoot (directory : String) : m (Option String) :=
  firstThere (fun d => Path.join d ".git") (Path.ancestors directory)

/-- The settings file to use; one that is asked for counts if it is there. -/
def discover (e : Environment) (asked : Option String) : m (Option String) := do
  let root ← repositoryRoot e.currentDirectory
  let directories :=
    [some e.currentDirectory, root, e.settingsDirectory?, e.home].filterMap id
  firstThere id (asked.toList ++ directories.flatMap candidates)

/-- Why a settings file cannot be used. -/
inductive FileProblem where
  | missing (path : String)
  | unreadable (fault : FileFault)
  | malformed
deriving DecidableEq, Repr

/-- The wording of a problem. -/
def FileProblem.message : FileProblem → String
  | missing path => "Config file not found: " ++ path
  | unreadable fault => "Failed to read config file: " ++ fault.message
  | malformed => "Failed to parse config file"

/-- The settings of a file. -/
def load (path : String) : m (Except FileProblem Settings) := do
  if ← Files.isThere path then
    match ← Files.readText path with
    | .ok text => return (read? text).elim (.error .malformed) .ok
    | .error fault => return .error (.unreadable fault)
  else return .error (.missing path)

/-- The settings to use and the file they are from; without a usable file, the defaults. -/
def loadFound (e : Environment) (asked : Option String) : m (Settings × Option String) := do
  match ← discover e asked with
  | none => return ({}, none)
  | some path =>
    match ← load path with
    | .ok settings => return (settings, some path)
    | .error _ => return ({}, none)

end Settings

end DefectCatalog
