import DefectCatalog.Arguments.Scan
import DefectCatalog.Decimal.Word
import DefectCatalog.Settings.Overlay

/-!
# The command line

What can be asked on the command line, as data: the options that every command
takes, and the command with its own.  `Invocation.parse` reads it;
`Invocation.overrides` is the layer of settings that it makes.
-/

namespace DefectCatalog

/-- The options of every command. -/
structure SharedOptions where
  verbose : Bool := false
  quiet : Bool := false
  plain : Bool := false
  settingsFile : Option String := none
  logFile : Option String := none
  bugs : Option String := none
  classification : Option String := none
  timeout : Option UInt64 := none
deriving DecidableEq, Repr

/-- How a list starts. -/
structure ViewOptions where
  sort : List String := []
  reverse : Bool := false
  mode : Option Matching := none
deriving DecidableEq, Repr

/-- How a report is written. -/
structure OutputOptions where
  format : OutputFormat := .auto
  file : Option String := none
deriving DecidableEq, Repr

/-- The shells that can complete a command line. -/
inductive Shell where
  | bash
  | elvish
  | fish
  | powershell
  | zsh
deriving DecidableEq, Repr

/-- A command with its options. -/
inductive Command.Request where
  | browse (route theme : Option String) (noWelcome noMouse : Bool) (view : ViewOptions)
  | list (filters : List String) (limit : Option Nat) (view : ViewOptions) (output : OutputOptions)
  | show (target : String) (id : Option String) (noPatch : Bool) (output : OutputOptions)
  | labels (category : Option String) (counts : Bool) (output : OutputOptions)
  | completions (shell : Shell)
  | settingsSchema (file : Option String)
  | settingsShow
  | settingsPath
  | settingsInit (forUser : Bool)
deriving Repr

/-- A command line that was understood. -/
structure Invocation where
  shared : SharedOptions
  request : Command.Request
deriving Repr

namespace Shell

/-- The name of a shell. -/
def name : Shell → String
  | bash => "bash"
  | elvish => "elvish"
  | fish => "fish"
  | powershell => "powershell"
  | zsh => "zsh"

/-- The shell with a given name. -/
def ofName? (s : String) : Option Shell :=
  [bash, elvish, fish, powershell, zsh].find? fun shell => shell.name == s

end Shell

namespace Arguments

/-- An option whose value may be any text. -/
def textOption (long : String) (short : Option Char := none) : OptionSpec :=
  { long, short, kind := .value fun _ => true }

/-- An option whose value is a path, which cannot be empty. -/
def pathOption (long : String) (short : Option Char := none) : OptionSpec :=
  { long, short, kind := .value fun s => !s.isEmpty }

/-- An option whose value is a natural number. -/
def numberOption (long : String) (short : Option Char := none) : OptionSpec :=
  { long, short, kind := .value fun s => (Decimal.word? s.toList).isSome }

/-- An option without a value. -/
def flagOption (long : String) (short : Option Char := none) : OptionSpec :=
  { long, short, kind := .flag }

/-- The format with exactly this name. -/
def format? (s : String) : Option OutputFormat :=
  (OutputFormat.parse s false).toOption

/-- The mode with this name. -/
def mode? (s : String) : Option Matching :=
  (Matching.parse s).toOption

/-- The options of every level. -/
def sharedOptions : List OptionSpec :=
  [flagOption "verbose" 'v', flagOption "quiet" 'q', flagOption "no-color", pathOption "config",
    pathOption "log-file", textOption "bugs", textOption "classification", numberOption "timeout",
    { long := "help", short := 'h', kind := .stop .help }]

/-- The options on how a list starts. -/
def viewOptions : List OptionSpec :=
  [{ long := "sort", short := 's', kind := .values }, flagOption "reverse" 'r',
    { long := "match", short := 'm', kind := .value fun s => (mode? s).isSome }]

/-- The options on how a report is written. -/
def outputOptions : List OptionSpec :=
  [{ long := "output", short := 'o', kind := .value fun s => (format? s).isSome },
    pathOption "output-file" 'O']

/-- The commands of the first level. -/
def commandNames : List String :=
  ["browse", "list", "show", "labels", "completions", "config-schema", "config", "help"]

/-- The commands on settings. -/
def settingsCommandNames : List String :=
  ["show", "path", "init", "help"]

/-- The first level. -/
def rootLevel : Level :=
  { options := { long := "version", short := 'V', kind := .stop .version } :: sharedOptions
    commands := commandNames }

/-- A level with given options besides those of every level. -/
def levelOf (options : List OptionSpec) (positionals : Nat := 0) : Level :=
  { options := options ++ sharedOptions, positionals }

/-- The options of every level that were given at one. -/
def readShared (g : Given) : SharedOptions where
  verbose := g.flag "verbose"
  quiet := g.flag "quiet"
  plain := g.flag "no-color"
  settingsFile := g.value? "config"
  logFile := g.value? "log-file"
  bugs := g.value? "bugs"
  classification := g.value? "classification"
  timeout := (g.value? "timeout").bind fun s => (Decimal.word? s.toList).map UInt64.ofNat

/-- The options on how a list starts that were given. -/
def readView (g : Given) : ViewOptions where
  sort := g.all "sort"
  reverse := g.flag "reverse"
  mode := (g.value? "match").bind mode?

/-- The options on how a report is written that were given. -/
def readOutput (g : Given) : OutputOptions where
  format := ((g.value? "output").bind format?).getD .auto
  file := g.value? "output-file"

/-- The options of two levels: those of the inner level count where both give one. -/
def layer (outer inner : SharedOptions) : SharedOptions where
  verbose := outer.verbose || inner.verbose
  quiet := outer.quiet || inner.quiet
  plain := outer.plain || inner.plain
  settingsFile := inner.settingsFile <|> outer.settingsFile
  logFile := inner.logFile <|> outer.logFile
  bugs := inner.bugs <|> outer.bugs
  classification := inner.classification <|> outer.classification
  timeout := inner.timeout <|> outer.timeout

/-- Reads the arguments of a level that has no commands. -/
def readLevel (level : Level) (args : List String) : Except Stop Given := do
  return (← scan level {} args).1

/-- Reads the command on settings. -/
def readSettingsCommand (args : List String) : Except Stop (SharedOptions × Command.Request) := do
  let level : Level := { options := sharedOptions, commands := settingsCommandNames }
  match ← scan level {} args with
  | (g, some ("show", rest)) =>
    return (layer (readShared g) (readShared (← readLevel (levelOf []) rest)), .settingsShow)
  | (g, some ("path", rest)) =>
    return (layer (readShared g) (readShared (← readLevel (levelOf []) rest)), .settingsPath)
  | (g, some ("init", rest)) =>
    let inner ← readLevel (levelOf [flagOption "global"]) rest
    return (layer (readShared g) (readShared inner), .settingsInit (inner.flag "global"))
  | (_, some ("help", rest)) =>
    throw (if rest.all settingsCommandNames.contains then .help else .misuse)
  | _ => throw .misuse

/-- Reads a command and its arguments. -/
def readCommand (command : String) (args : List String) :
    Except Stop (SharedOptions × Command.Request) := do
  match command with
  | "browse" =>
    let g ← readLevel (levelOf ([textOption "route", flagOption "no-welcome", flagOption "no-mouse",
      textOption "theme"] ++ viewOptions)) args
    return (readShared g, .browse (g.value? "route") (g.value? "theme") (g.flag "no-welcome")
      (g.flag "no-mouse") (readView g))
  | "list" =>
    let g ← readLevel (levelOf ([{ long := "filter", short := 'f', kind := .values },
      numberOption "limit" 'n'] ++ viewOptions ++ outputOptions)) args
    return (readShared g, .list (g.all "filter")
      ((g.value? "limit").bind fun s => Decimal.word? s.toList) (readView g) (readOutput g))
  | "show" =>
    let g ← readLevel (levelOf (flagOption "no-patch" :: outputOptions) 2) args
    match g.positionals with
    | target :: rest =>
      return (readShared g, .show target rest.head? (g.flag "no-patch") (readOutput g))
    | [] => throw .misuse
  | "labels" =>
    let g ← readLevel (levelOf ([textOption "category", flagOption "counts"] ++ outputOptions)) args
    return (readShared g, .labels (g.value? "category") (g.flag "counts") (readOutput g))
  | "completions" =>
    let g ← readLevel (levelOf [] 1) args
    match g.positionals.head?.bind Shell.ofName? with
    | some shell => return (readShared g, .completions shell)
    | none => throw .misuse
  | "config-schema" =>
    let g ← readLevel (levelOf [pathOption "output" 'o']) args
    return (readShared g, .settingsSchema (g.value? "output"))
  | "config" => readSettingsCommand args
  | _ => throw (if args.all commandNames.contains then .help else .misuse)

end Arguments

namespace Invocation

open Arguments in
/-- Reads a command line, without the name of the program. -/
def parse (args : List String) : Except Stop Invocation := do
  match ← scan rootLevel {} args with
  | (g, some (command, rest)) =>
    let (inner, request) ← readCommand command rest
    return { shared := layer (readShared g) inner, request }
  | (_, none) => throw .misuse

/-- Lays the options on how a list starts over settings. -/
def withView (s : BrowseSettings) (view : ViewOptions) : BrowseSettings :=
  { s with
    sort := if view.sort.isEmpty then s.sort else view.sort
    reverse := view.reverse
    mode := view.mode.getD s.mode }

/-- Lays the options on how a report is written over settings. -/
def withOutput (s : OutputSettings) (output : OutputOptions) : OutputSettings :=
  { s with format := output.format, file := output.file }

/-- The settings of the options that every command takes. -/
def sharedOverrides (o : SharedOptions) : Settings :=
  let d : Settings := {}
  { d with
    data :=
      { bugs := o.bugs.getD d.data.bugs
        classification := o.classification.getD d.data.classification
        timeout := o.timeout.getD d.data.timeout }
    output := { d.output with plain := o.plain } }

/-- The layer of settings that a command line makes; what it does not say has its default. -/
def overrides (i : Invocation) : Settings :=
  let s := sharedOverrides i.shared
  match i.request with
  | .browse _ theme noWelcome noMouse view =>
    { s with
      browse := withView { s.browse with showWelcome := !noWelcome } view
      screen := { theme := theme.getD s.screen.theme, mouse := !noMouse } }
  | .list _ _ view output =>
    { s with browse := withView s.browse view, output := withOutput s.output output }
  | .show _ _ _ output | .labels _ _ output => { s with output := withOutput s.output output }
  | _ => s

/-- The settings that count: those of the file with those of the command line over them. -/
def effective (i : Invocation) (file : Settings) : Settings :=
  file.overlay i.overrides

end Invocation

end DefectCatalog
