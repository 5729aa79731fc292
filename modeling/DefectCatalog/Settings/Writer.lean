import DefectCatalog.Settings
import DefectCatalog.Yaml.Writer

/-!
# Writing settings

The settings as a structured value, as YAML text, and as the file that a new
reader starts from.
-/

namespace DefectCatalog

open Json (Value)

/-- A column as an object. -/
def Column.toJson (c : Column) : Value :=
  .object [("title", .string c.title), ("sort", .array (c.fields.map .string)),
    ("width", .number (.integer c.width.toNat))]

namespace Settings

/-- The section on documents as an object. -/
def dataJson (d : DataSettings) : Value :=
  .object [("bugs", .string d.bugs), ("classification", .string d.classification),
    ("timeout_secs", .number (.integer d.timeout.toNat))]

/-- The section on the list as an object. -/
def browseJson (b : BrowseSettings) : Value :=
  .object [("sort", .array (b.sort.map .string)), ("reverse", .bool b.reverse),
    ("match_mode", .string b.mode.name), ("show_welcome", .bool b.showWelcome),
    ("columns", .array (b.columns.map Column.toJson))]

/-- The section on reports as an object; the file is named only if there is one. -/
def outputJson (o : OutputSettings) : Value :=
  let file := match o.file with
    | some path => [("file", .string path)]
    | none => []
  .object ([("format", .string o.format.name)] ++ file ++ [("no_color", .bool o.plain)])

/-- The section on the screen as an object. -/
def screenJson (s : ScreenSettings) : Value :=
  .object [("theme", .string s.theme), ("mouse_enabled", .bool s.mouse)]

/-- The settings as an object of sections. -/
def toJson (s : Settings) : Value :=
  .object [("data", dataJson s.data), ("browse", browseJson s.browse),
    ("output", outputJson s.output), ("tui", screenJson s.screen)]

/-- The settings as YAML text. -/
def yaml (s : Settings) : String :=
  Yaml.write s.toJson

/-- The remark that heads a new settings file. -/
def startingRemark : List String :=
  ["# defects-browser configuration",
    "# Place this file at .defects-browser.yaml in your project root",
    "# or ~/.config/defects-browser/defects-browser.yaml.",
    "# CLI arguments always override file settings.",
    ""]

/-- The settings file that a new reader starts from: the defaults under a remark. -/
def startingFile : String :=
  Text.unlines startingRemark ++ yaml {}

end Settings

end DefectCatalog
