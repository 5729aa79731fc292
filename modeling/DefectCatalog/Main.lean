import DefectCatalog.Program

/-!
# The executable

The outer layer: the files and the environment of the machine are handed to
`Program.run`, and what it says is printed.  Nothing is decided here.
-/

namespace DefectCatalog.Main

/-- The system's number for an error, which some of its functions negate. -/
def systemCode (code : UInt32) : UInt32 :=
  if code < 0x80000000 then code else 0 - code

/-- The fault behind an error of the system, by the system's own number for it. -/
def faultOfCode (code : UInt32) (text : String) : FileFault :=
  match systemCode code with
  | 2 => .notFound
  | 17 => .alreadyExists
  | 20 => .notADirectory
  | 21 => .isADirectory
  | _ => .other (text ++ " (os error " ++ toString (systemCode code).toNat ++ ")")

/-- The fault behind an error. -/
def faultOf : IO.Error → FileFault
  | .noFileOrDirectory _ code text => faultOfCode code text
  | .alreadyExists _ code text => faultOfCode code text
  | .inappropriateType _ code text => faultOfCode code text
  | .permissionDenied _ code text => faultOfCode code text
  | .resourceBusy code text => faultOfCode code text
  | e => .other (toString e)

/-- Does an action on files, and names what went wrong. -/
def guarded {α : Type} (action : IO α) : IO (Except FileFault α) := do
  match ← action.toBaseIO with
  | .ok a => return .ok a
  | .error e => return .error (faultOf e)

instance : Files IO where
  readText path := guarded (IO.FS.readFile path)
  writeText path text := guarded (IO.FS.writeFile path text)
  isThere path := do return (← guarded (IO.FS.realPath path)).isOk
  makeDirectories path := guarded (IO.FS.createDirAll path)

/-- A variable of the environment, unless it is empty. -/
def nonempty? (name : String) : IO (Option String) := do
  return (← IO.getEnv name).filter fun value => !value.isEmpty

/-- Where the program runs. -/
def environment : IO Environment := do
  return {
    currentDirectory := (← IO.currentDir).toString
    home := ← nonempty? "HOME"
    settingsHome := ← nonempty? "XDG_CONFIG_HOME"
    plain := (← IO.getEnv "NO_COLOR").isSome
    bugs := ← IO.getEnv "DEFECTS_BUGS"
    classification := ← IO.getEnv "DEFECTS_CLASSIFICATION" }

end DefectCatalog.Main

open DefectCatalog in
/-- Runs the command line and prints what it says; the exit code tells how it ended. -/
def main (args : List String) : IO UInt32 := do
  let outcome : Command.Outcome ← Program.run (← Main.environment) args
  IO.print outcome.output
  IO.eprint outcome.errors
  return .ofNat outcome.status.code
