import DefectCatalog.Error
import DefectCatalog.Files
import DefectCatalog.Route

/-!
# Outcomes of commands

A command ends with an exit code and what it said, or fails for a reason.  The
text of a failure names what was attempted and then its causes.
-/

namespace DefectCatalog.Command

/-- The exit codes. -/
inductive Status where
  | success
  /-- No bug matched, or the bug does not exist. -/
  | noMatch
  /-- The command line cannot be understood. -/
  | usage
  | failure
deriving DecidableEq, Repr

/-- The number of an exit code. -/
def Status.code : Status → Nat
  | success => 0
  | noMatch => 1
  | usage => 2
  | failure => 3

/-- How a command ended: its exit code and what it wrote to the two output streams. -/
structure Outcome where
  status : Status := .success
  output : String := ""
  errors : String := ""
deriving DecidableEq, Repr

/-- Why a command failed. -/
inductive Failure where
  | bugsNotLoaded (location : String) (cause : CatalogError)
  | classificationNotLoaded (location : String) (cause : CatalogError)
  | reportNotWritten (path : String) (fault : FileFault)
  /-- A route that leads to no bug was given where a bug is needed. -/
  | noBugRoute (route : Route)
  /-- A text that was to name a bug is no route. -/
  | badTarget (text : String) (cause : CatalogError)
  | badStartRoute (cause : CatalogError)
  /-- The browser needs a terminal, and there is none. -/
  | noTerminal
  | logNotCreated (path : String) (fault : FileFault)
  | directoryNotCreated (path : String) (fault : FileFault)
  | fileNotWritten (path : String) (fault : FileFault)
  | settingsExist (path : String)
deriving DecidableEq, Repr

/-- What failed, and why. -/
def Failure.message : Failure → String
  | bugsNotLoaded location cause =>
    "Failed to load bugs from " ++ location ++ ": " ++ cause.chainMessage
  | classificationNotLoaded location cause =>
    "Failed to load classification from " ++ location ++ ": " ++ cause.chainMessage
  | reportNotWritten path fault =>
    "Failed to write output to " ++ path ++ ": " ++ fault.message
  | noBugRoute route =>
    "Route " ++ route.text ++ " does not address a bug; expected /bug/<project>/<id>"
  | badTarget text cause => "'" ++ text ++ "' is not a bug route: " ++ cause.chainMessage
  | badStartRoute cause => "Invalid --route: " ++ cause.chainMessage
  | noTerminal => "Terminal UI failed: No such device or address (os error 6)"
  | logNotCreated path fault => "cannot create log file " ++ path ++ ": " ++ fault.message
  | directoryNotCreated path fault => "failed to create " ++ path ++ ": " ++ fault.message
  | fileNotWritten path fault => "failed to write " ++ path ++ ": " ++ fault.message
  | settingsExist path => path ++ " already exists. Remove it first to re-initialize."

/-- A command that may fail. -/
abbrev Attempt (m : Type → Type) : Type → Type :=
  ExceptT Failure m

variable {m : Type → Type} [Monad m] [Files m]

/-- Does a file operation and names a fault of it. -/
def attempting {α : Type} (failure : FileFault → Failure) (action : m (Except FileFault α)) :
    Attempt m α := do
  match ← action with
  | .ok a => return a
  | .error fault => throw (failure fault)

/-- Delivers a report: to the file, or to standard output with a line break after it. -/
def deliver (file : Option String) (status : Status) (report : String) : Attempt m Outcome := do
  match file with
  | some path =>
    attempting (.reportNotWritten path) (Files.writeText path report)
    return { status }
  | none => return { status, output := report ++ "\n" }

end DefectCatalog.Command
