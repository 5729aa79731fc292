import DefectCatalog.Arguments
import DefectCatalog.Text.Lines

/-!
# Help on the command line

What the program says about itself: its version, a summary of the commands, and
the text by which a shell completes them.
-/

namespace DefectCatalog.Command

/-- The name of the program. -/
def programName : String := "defects-browser"

/-- The name and the version of the program. -/
def versionText : String := programName ++ " 0.1.0\n"

/-- A summary of the commands. -/
def helpText : String :=
  Text.unlines
    ["Browse bug-fix benchmark datasets and their repair classification", "",
      "Usage: defects-browser [OPTIONS] <COMMAND>", "", "Commands:",
      "  browse         Browse the dataset interactively",
      "  list           List bugs matching classification filters",
      "  show           Show one bug with its classification and patch",
      "  labels         List the classification keys and their labels",
      "  completions    Generate shell completions",
      "  config-schema  Generate JSON Schema for the config file format",
      "  config         Show, discover, or initialize configuration",
      "  help           Print this message or the help of the given subcommand(s)"]

/-- The text that makes a shell complete the names of commands. -/
def completionText (shell : Shell) : String :=
  let names := Text.joined " " Arguments.commandNames
  let quotedNames := Text.joined ", " (Arguments.commandNames.map fun n => "'" ++ n ++ "'")
  match shell with
  | .bash => "complete -W \"" ++ names ++ "\" " ++ programName ++ "\n"
  | .elvish =>
    "set edit:completion:arg-completer[" ++ programName ++ "] = \x7b|@words| put " ++ names ++
      " \x7d\n"
  | .fish => "complete -c " ++ programName ++ " -f -a \"" ++ names ++ "\"\n"
  | .powershell =>
    "Register-ArgumentCompleter -Native -CommandName " ++ programName ++ " -ScriptBlock \x7b " ++
      quotedNames ++ " \x7d\n"
  | .zsh => "compctl -k \"(" ++ names ++ ")\" " ++ programName ++ "\n"

end DefectCatalog.Command
