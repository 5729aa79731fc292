import DefectCatalog.Settings.Check
import DefectCatalog.Settings.Writer

/-!
# The schema of settings

A JSON schema that describes the settings file: every section, every setting
with its type and default, and the range of the time limit.
-/

namespace DefectCatalog.Settings.Schema

open Json (Value)

/-- A description with the members that say more. -/
def described (text : String) (more : List (String × Value)) : Value :=
  .object (("description", .string text) :: more)

/-- The schema of a type by its name. -/
def typed (name : String) : List (String × Value) :=
  [("type", .string name)]

/-- A reference to a definition. -/
def reference (name : String) : List (String × Value) :=
  [("$ref", .string ("#/definitions/" ++ name))]

/-- A list of what the members describe. -/
def listOf (item : List (String × Value)) : List (String × Value) :=
  typed "array" ++ [("items", .object item)]

/-- A natural number in a range. -/
def naturalBetween (least greatest : Nat) : List (String × Value) :=
  typed "integer" ++
    [("minimum", .number (.integer least)), ("maximum", .number (.integer greatest))]

/-- An object with given properties. -/
def objectOf (text : String) (required : List String) (properties : List (String × Value)) :
    Value :=
  described text <|
    typed "object" ++
      (if required.isEmpty then [] else [("required", .array (required.map .string))]) ++
      [("properties", .object properties)]

/-- A text out of a given list. -/
def oneOf (text : String) (names : List String) : Value :=
  described text (typed "string" ++ [("enum", .array (names.map .string))])

/-- The types that the sections are made of. -/
def definitions : List (String × Value) :=
  [("BrowseConfig", objectOf "Initial state of the bug list." []
      [("columns", described "Columns of the bug list" (listOf (reference "ColumnConfig"))),
        ("match_mode", described "How active filters combine: all or any" (reference "MatchMode")),
        ("reverse", described "Start with a descending sort" (typed "boolean")),
        ("show_welcome", described "Show the welcome panel when the TUI starts" (typed "boolean")),
        ("sort", described "Initial sort fields; only the first one orders the list"
          (listOf (typed "string")))]),
    ("ColumnConfig", objectOf "A sortable column of the bug list." ["sort", "title"]
      [("sort", described
          "Sort fields applied when the column is clicked; the first one is also the value displayed"
          (listOf (typed "string"))),
        ("title", described "Header text" (typed "string")),
        ("width", described "Column width in cells" (naturalBetween 0 (UInt16.size - 1)))]),
    ("DataConfig", objectOf "Data document locations." []
      [("bugs", described "Bug list: a local path or an http(s) URL" (typed "string")),
        ("classification", described "Classification taxonomy: a local path or an http(s) URL"
          (typed "string")),
        ("timeout_secs", described "Timeout for remote requests, in seconds"
          (naturalBetween timeoutRange.1 timeoutRange.2))]),
    ("MatchMode", oneOf "How the active filter keys combine."
      ([Matching.all, .any].map Matching.name)),
    ("OutputConfig", objectOf "Output-related configuration" []
      [("file", described "Output file path (None for stdout)"
          [("type", .array [.string "string", .string "null"])]),
        ("format", described "Output format" (reference "ReportFormat")),
        ("no_color", described "Disable colored output" (typed "boolean"))]),
    ("ReportFormat", oneOf "Output format for reports" (OutputFormat.all.map OutputFormat.name)),
    ("TuiConfig", objectOf "TUI-specific configuration" []
      [("mouse_enabled", described "Enable mouse support" (typed "boolean")),
        ("theme", described "Theme name: \"dark\", \"light\", or \"high-contrast\""
          (typed "string"))])]

/-- The sections, each with its default and its type. -/
def sections : List (String × Value) :=
  let d : Settings := {}
  let entry := fun (text name : String) (standard : Value) =>
    described text (("default", standard) :: reference name)
  [("browse", entry "Initial list settings" "BrowseConfig" (browseJson d.browse)),
    ("data", entry "Where the data documents come from" "DataConfig" (dataJson d.data)),
    ("output", entry "Report output for the non-interactive commands" "OutputConfig"
      (outputJson d.output)),
    ("tui", entry "TUI-specific configuration" "TuiConfig" (screenJson d.screen))]

/-- The whole schema. -/
def value : Value :=
  .object
    [("title", .string "AppConfig"),
      ("description", .string
        "Unified application configuration, loaded from a config file and overridden by CLI arguments."),
      ("type", .string "object"), ("properties", .object sections),
      ("definitions", .object definitions)]

end DefectCatalog.Settings.Schema
