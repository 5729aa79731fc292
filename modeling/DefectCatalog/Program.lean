import DefectCatalog.Command.Bugs
import DefectCatalog.Command.Help
import DefectCatalog.Command.Labels
import DefectCatalog.Command.Settings

/-!
# The program

A run of the program: the command line is understood, the log file is started,
and the command is carried out with the settings that count.
-/

namespace DefectCatalog.Program

open Command

variable {m : Type → Type} [Monad m] [Files m]

/-- The invocation with what the environment says where the command line does not. -/
def withEnvironment (e : Environment) (i : Invocation) : Invocation :=
  { i with shared :=
    { i.shared with
      bugs := i.shared.bugs <|> e.bugs
      classification := i.shared.classification <|> e.classification } }

/-- The settings that count for an invocation. -/
def settingsFor (e : Environment) (i : Invocation) : Attempt m Settings := do
  let (settings, _) ← (Settings.loadFound e i.shared.settingsFile : m _)
  return i.effective settings

/-- The route to the bug that is asked for: by project and id, or by a route. -/
def bugRoute (target : String) (id : Option String) : Except Failure Route :=
  match id with
  | some id => .ok (.bug target id)
  | none => (Route.parse target).mapError (.badTarget target)

/-- Starts the log file, if there is to be one. -/
def startLog (file : Option String) : Attempt m Unit := do
  match file with
  | some path => attempting (.logNotCreated path) (Files.writeText path "")
  | none => pure ()

/-- Checks what the browser is asked to start with; without a terminal it cannot run. -/
def browse (route : Option String) : Attempt m Outcome := do
  match route with
  | some text =>
    match Route.parse text with
    | .ok _ => throw .noTerminal
    | .error cause => throw (.badStartRoute cause)
  | none => throw .noTerminal

/-- Carries out the command of an invocation. -/
def perform (e : Environment) (i : Invocation) : Attempt m Outcome := do
  match i.request with
  | .browse route .. => browse route
  | .list filters limit .. =>
    Command.list (← settingsFor e i) e.plain { filters, limit }
  | .show target id noPatch _ =>
    Command.show (← settingsFor e i) e.plain (← liftExcept (bugRoute target id)) (!noPatch)
  | .labels category counts _ => Command.labels (← settingsFor e i) { category, counts }
  | .completions shell => return { output := completionText shell }
  | .settingsSchema file => SettingsCommand.schema file
  | .settingsShow => SettingsCommand.show e i.shared.settingsFile
  | .settingsPath => SettingsCommand.path e i.shared.settingsFile
  | .settingsInit forUser => SettingsCommand.init e forUser
where
  /-- A result as an attempt. -/
  liftExcept {α : Type} (x : Except Failure α) : Attempt m α :=
    match x with
    | .ok a => pure a
    | .error failure => throw failure

/-- Runs a command line that may fail. -/
def attempt (e : Environment) (i : Invocation) : Attempt m Outcome := do
  startLog i.shared.logFile
  perform e (withEnvironment e i)

/-- Runs a command line. -/
def run (e : Environment) (args : List String) : m Outcome := do
  match Invocation.parse args with
  | .error .misuse => return { status := .usage, errors := helpText }
  | .error .help => return { output := helpText }
  | .error .version => return { output := versionText }
  | .ok i =>
    match ← (attempt e i).run with
    | .ok outcome => return outcome
    | .error failure =>
      return { status := .failure, errors := "Error: " ++ failure.message ++ "\n" }

end DefectCatalog.Program
