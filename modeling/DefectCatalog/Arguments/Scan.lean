/-!
# Scanning a command line

A command line is read level by level: a level knows its options, how many
plain arguments it takes, and the commands that open the next level.  Options
are long (`--name`, `--name=value`) or short, and short ones can stand together
(`-rn5`).  Two dashes end the options.  The first argument that is wrong, or
that asks for help or the version, decides.
-/

namespace DefectCatalog.Arguments

/-- What stops the reading of a command line. -/
inductive Stop where
  | misuse
  | help
  | version
deriving DecidableEq, Repr

/-- What an option does. -/
inductive OptionKind where
  /-- It is given or not. -/
  | flag
  /-- It has one value, of which a test tells whether it is acceptable. -/
  | value (accepts : String → Bool)
  /-- It has values, separated by commas, and can be repeated. -/
  | values
  /-- It stops the reading. -/
  | stop (stop : Stop)

/-- An option with its names. -/
structure OptionSpec where
  long : String
  short : Option Char := none
  kind : OptionKind

/-- What can be given at one level of the command line. -/
structure Level where
  options : List OptionSpec
  /-- How many plain arguments there may be. -/
  positionals : Nat := 0
  commands : List String := []

/-- What was given at one level. -/
structure Given where
  flags : List String := []
  values : List (String × String) := []
  positionals : List String := []
  /-- Whether the options have ended. -/
  ended : Bool := false
  /-- The option that waits for its value. -/
  waiting : Option OptionSpec := none

namespace Given

/-- Whether a flag was given. -/
def flag (g : Given) (long : String) : Bool :=
  g.flags.contains long

/-- The values of an option, in order. -/
def all (g : Given) (long : String) : List String :=
  g.values.filterMap fun v => if v.1 = long then some v.2 else none

/-- The value of an option that has one. -/
def value? (g : Given) (long : String) : Option String :=
  (g.all long).head?

end Given

/-- The pieces of a text between commas. -/
def pieces (s : String) : List String :=
  (s.splitOn ",")

/-- An option that takes no value was given. -/
def giveFlag (g : Given) (o : OptionSpec) : Except Stop Given :=
  match o.kind with
  | .flag => if g.flag o.long then .error .misuse else .ok { g with flags := g.flags ++ [o.long] }
  | .stop s => .error s
  | .value _ | .values => .ok { g with waiting := some o }

/-- A value of an option was given. -/
def giveValue (g : Given) (o : OptionSpec) (v : String) : Except Stop Given :=
  let g := { g with waiting := none }
  match o.kind with
  | .value accepts =>
    if accepts v && (g.all o.long).isEmpty then .ok { g with values := g.values ++ [(o.long, v)] }
    else .error .misuse
  | .values => .ok { g with values := g.values ++ (pieces v).map fun p => (o.long, p) }
  | .flag | .stop _ => .error .misuse

/-- Reads short options that stand together, and the value of the last one if it is attached. -/
def giveCluster (level : Level) (g : Given) : List Char → Except Stop Given
  | [] => .ok g
  | c :: rest =>
    match level.options.find? fun o => o.short == some c with
    | none => .error .misuse
    | some o =>
      match o.kind, rest with
      | .value _, _ :: _ | .values, _ :: _ =>
        giveValue g o (String.ofList (if rest.head? == some '=' then rest.tail else rest))
      | _, _ => do giveCluster level (← giveFlag g o) rest

/-- Reads a long option without its dashes, with or without an attached value. -/
def giveLong (level : Level) (g : Given) (s : List Char) : Except Stop Given :=
  let name := String.ofList (s.takeWhile (· != '='))
  match level.options.find? fun o => o.long == name with
  | none => .error .misuse
  | some o =>
    match s.dropWhile (· != '=') with
    | [] => giveFlag g o
    | _ :: v => giveValue g o (String.ofList v)

/-- A plain argument was given. -/
def givePositional (level : Level) (g : Given) (arg : String) : Except Stop Given :=
  if g.positionals.length < level.positionals then
    .ok { g with positionals := g.positionals ++ [arg] }
  else .error .misuse

/-- Reads an argument that is no command. -/
def giveArgument (level : Level) (g : Given) (arg : String) : Except Stop Given :=
  if g.ended then givePositional level g arg
  else
    match g.waiting, arg.toList with
    | some _, '-' :: _ :: _ => .error .misuse
    | some o, _ => giveValue g o arg
    | none, ['-', '-'] => .ok { g with ended := true }
    | none, '-' :: '-' :: s => giveLong level g s
    | none, '-' :: c :: s => giveCluster level g (c :: s)
    | none, _ => givePositional level g arg

/-- Whether an argument opens the next level. -/
def isCommand (level : Level) (g : Given) (arg : String) : Bool :=
  !g.ended && g.waiting.isNone && level.commands.contains arg

/-- Reads arguments up to a command, and answers the command with the arguments after it. -/
def scan (level : Level) (g : Given) :
    List String → Except Stop (Given × Option (String × List String))
  | [] => if g.waiting.isSome then .error .misuse else .ok (g, none)
  | arg :: rest =>
    if isCommand level g arg then .ok (g, some (arg, rest))
    else do scan level (← giveArgument level g arg) rest

end DefectCatalog.Arguments
