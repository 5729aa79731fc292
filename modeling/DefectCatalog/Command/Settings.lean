import DefectCatalog.Command.Outcome
import DefectCatalog.Settings.Discovery
import DefectCatalog.Settings.Schema

/-!
# Commands on settings

Showing the settings of the file in use, telling where a settings file is
looked for, starting a new one, and describing the format by a schema.  What is
not the result itself goes to the error stream.
-/

namespace DefectCatalog.Command.SettingsCommand

variable {m : Type → Type} [Monad m] [Files m]

/-- Shows the settings of the file in use. -/
def «show» (e : Environment) (asked : Option String) : Attempt m Outcome := do
  let (settings, path) ← (DefectCatalog.Settings.loadFound e asked : m _)
  let remark := match path with
    | some p => "# Loaded from: " ++ p
    | none => "# No config file found; showing defaults"
  return { output := settings.yaml, errors := remark ++ "\n" }

/-- Tells where a settings file is looked for, and which one is in use. -/
def path (e : Environment) (asked : Option String) : Attempt m Outcome := do
  let found ← (DefectCatalog.Settings.discover e asked : m _)
  let directories := [some e.currentDirectory, e.settingsDirectory?, e.home].filterMap id
  let indented := fun (s : String) => "  " ++ s
  let last := match found with
    | some p => "Active config file: " ++ p
    | none => "No config file found."
  return { errors := Text.unlines <|
    ["Config file search paths (in order):"] ++ directories.map indented ++
      ["", "Recognized file names:"] ++ DefectCatalog.Settings.fileNames.map indented ++
      ["", last] }

/-- The file that a new settings file becomes: the reader's, or one in the current directory. -/
def newFile (e : Environment) (forUser : Bool) : String :=
  if forUser then
    match e.settingsDirectory? with
    | some directory => Path.join directory DefectCatalog.Settings.userFileName
    | none => DefectCatalog.Settings.localFileName
  else Path.join e.currentDirectory DefectCatalog.Settings.localFileName

/-- Starts a new settings file; one that exists is left alone. -/
def init (e : Environment) (forUser : Bool) : Attempt m Outcome := do
  let file := newFile e forUser
  if ← (Files.isThere file : m Bool) then throw (.settingsExist file)
  match Path.parent? file with
  | some directory =>
    attempting (.directoryNotCreated directory) (Files.makeDirectories directory)
  | none => pure ()
  attempting (.fileNotWritten file) (Files.writeText file DefectCatalog.Settings.startingFile)
  return { errors := "Created " ++ file ++ "\n" }

/-- Writes the schema of settings, to a file or to standard output. -/
def schema (file : Option String) : Attempt m Outcome := do
  let text := DefectCatalog.Settings.Schema.value.pretty
  match file with
  | some p =>
    attempting (.fileNotWritten p) (Files.writeText p text)
    return { errors := "Schema written to " ++ p ++ "\n" }
  | none => return { output := text ++ "\n" }

end DefectCatalog.Command.SettingsCommand
