import DefectCatalog.Settings
import DefectCatalog.Yaml.Reader

/-!
# Reading settings

Settings are read from a YAML mapping of sections.  An absent setting keeps its
default, an unknown key is ignored, and a known key may stand only once.  A
text accepts any scalar as it is written; numbers and truth values have to be
written without quotes.
-/

namespace DefectCatalog.Settings.Reader

open Yaml (Node)

/-- The entries of a mapping by the text of their keys; nothing written is an empty mapping. -/
def members? : Node → Option (List (String × Node))
  | .mapping entries =>
    entries.mapM fun e =>
      match e.1 with
      | .scalar key _ => some (key, e.2)
      | _ => none
  | .scalar "" true => some []
  | _ => none

/-- The value of a key that may stand once: an absent one reads as the default. -/
def member {α : Type} (members : List (String × Node)) (key : String) (default : Option α)
    (read : Node → Option α) : Option α :=
  match members.filter fun m => m.1 == key with
  | [] => default
  | [m] => read m.2
  | _ => none

/-- Any scalar is a text. -/
def text? : Node → Option String
  | .scalar s _ => some s
  | _ => none

/-- A text that may be absent, null or left empty. -/
def optionalText? : Node → Option (Option String)
  | .scalar s plain => some (if plain && (s.isEmpty || Yaml.Scalar.isNull s) then none else some s)
  | _ => none

/-- A truth value, written without quotes. -/
def bool? : Node → Option Bool
  | .scalar s true => Yaml.Scalar.bool? s
  | _ => none

/-- A natural number below a bound, written without quotes. -/
def natBelow? (bound : Nat) : Node → Option Nat
  | .scalar s true => do
    let n ← Yaml.Scalar.nat? s
    if n < bound then some n else none
  | _ => none

/-- A list; nothing written is an empty list. -/
def list? {α : Type} (read : Node → Option α) : Node → Option (List α)
  | .sequence items => items.mapM read
  | .scalar "" true => some []
  | _ => none

/-- A match mode by its name. -/
def mode? (n : Node) : Option Matching := do
  let s ← text? n
  [Matching.all, .any].find? fun m => m.name == s

/-- A report format by its name. -/
def format? (n : Node) : Option OutputFormat := do
  let s ← text? n
  (OutputFormat.parse s false).toOption

/-- A column: title and fields have to be there. -/
def column? (n : Node) : Option Column := do
  let ms ← members? n
  let title ← member ms "title" none text?
  let fields ← member ms "sort" none (list? text?)
  let width ← member ms "width" (some 10) (natBelow? UInt16.size)
  return { title, fields, width := .ofNat width }

/-- The section on documents. -/
def data? (n : Node) : Option DataSettings := do
  let ms ← members? n
  let d : DataSettings := {}
  let bugs ← member ms "bugs" d.bugs text?
  let classification ← member ms "classification" d.classification text?
  let timeout ← member ms "timeout_secs" d.timeout.toNat (natBelow? UInt64.size)
  return { bugs, classification, timeout := .ofNat timeout }

/-- The section on the list. -/
def browse? (n : Node) : Option BrowseSettings := do
  let ms ← members? n
  let d : BrowseSettings := {}
  let sort ← member ms "sort" d.sort (list? text?)
  let reverse ← member ms "reverse" d.reverse bool?
  let mode ← member ms "match_mode" d.mode mode?
  let showWelcome ← member ms "show_welcome" d.showWelcome bool?
  let columns ← member ms "columns" d.columns (list? column?)
  return { sort, reverse, mode, showWelcome, columns }

/-- The section on reports. -/
def output? (n : Node) : Option OutputSettings := do
  let ms ← members? n
  let d : OutputSettings := {}
  let format ← member ms "format" d.format format?
  let file ← member ms "file" (some d.file) optionalText?
  let plain ← member ms "no_color" d.plain bool?
  return { format, file, plain }

/-- The section on the screen. -/
def screen? (n : Node) : Option ScreenSettings := do
  let ms ← members? n
  let d : ScreenSettings := {}
  let theme ← member ms "theme" d.theme text?
  let mouse ← member ms "mouse_enabled" d.mouse bool?
  return { theme, mouse }

end Reader

open Reader in
/-- The settings that a node holds. -/
def ofNode? (n : Yaml.Node) : Option Settings := do
  let ms ← members? n
  let data ← member ms "data" (some {}) data?
  let browse ← member ms "browse" (some {}) browse?
  let output ← member ms "output" (some {}) output?
  let screen ← member ms "tui" (some {}) screen?
  return { data, browse, output, screen }

/-- The settings that a YAML text holds. -/
def read? (text : String) : Option Settings := do
  ofNode? (← Yaml.read? text)

end DefectCatalog.Settings
