import DefectCatalog.Command.Dataset
import DefectCatalog.Taxonomy

/-!
# The labels command

The keys of the classification with their labels, as text or as data,
with or without the number of bugs that carry each key.
-/

namespace DefectCatalog.Command

/-- What to list of the classification. -/
structure LabelsOptions where
  category : Option String := none
  counts : Bool := false

namespace Labels

/-- The entries of a category, named in any case of its ASCII letters, or all of them. -/
def select (category : Option String) (entries : List Taxonomy.Entry) : List Taxonomy.Entry :=
  match category with
  | some name => entries.filter fun e => Text.sameIgnoringCase e.category name
  | none => entries

/-- The number of records that carry a key, if there are records. -/
def count? (records : Option (List Record)) (key : String) : Option Nat :=
  records.map fun rs => (rs.filter fun r => r.flag key).length

/-- The headings before an entry when those of `last` stand last: none within a group, and
a category after the first stands off by an empty line. -/
def headings (last : Option (String × String)) (e : Taxonomy.Entry) : List String :=
  if last = some (e.category, e.group) then []
  else
    (if last.map Prod.fst = some e.category then []
      else (if last.isSome then [""] else []) ++ [e.category ++ ":"]) ++
    ["  " ++ e.group ++ ":"]

/-- The line of an entry. -/
def entryText (keyWidth : Nat) (count : String → Option Nat) (e : Taxonomy.Entry) : String :=
  let shown := match count e.key with
    | some n => " (" ++ toString n ++ ")"
    | none => ""
  "    " ++ Text.padRight keyWidth e.key ++ "  " ++ e.label.display ++ shown

/-- The lines of entries that come after the headings `last`. -/
def textLines (keyWidth : Nat) (count : String → Option Nat) (last : Option (String × String)) :
    List Taxonomy.Entry → List String
  | [] => []
  | e :: rest =>
    headings last e ++ entryText keyWidth count e ::
      textLines keyWidth count (some (e.category, e.group)) rest

/-- The length of the longest key, in bytes. -/
def keyWidth (entries : List Taxonomy.Entry) : Nat :=
  (entries.map fun e => e.key.utf8ByteSize).foldl max 0

/-- The entries as text, each under its category and its group. -/
def text (entries : List Taxonomy.Entry) (count : String → Option Nat) : String :=
  Text.joined "\n" (textLines (keyWidth entries) count none entries)

/-- An entry as an object. -/
def entryJson (count : String → Option Nat) (e : Taxonomy.Entry) : Json.Value :=
  let counted := match count e.key with
    | some n => [("count", .number (.integer n))]
    | none => []
  .object ([("category", .string e.category), ("group", .string e.group), ("key", .string e.key),
    ("label", .string e.label.display)] ++ counted)

/-- The entries as data. -/
def data (entries : List Taxonomy.Entry) (count : String → Option Nat) : String :=
  (Json.Value.array (entries.map (entryJson count))).pretty

end Labels

variable {m : Type → Type} [Monad m] [Files m]

/-- Reports on the keys of the classification; the bug list is needed only for counting. -/
def labels (settings : Settings) (query : LabelsOptions) : Attempt m Outcome := do
  let records ← if query.counts then some <$> bugList settings.data else pure none
  let taxonomy ←
    if query.counts then classificationOrEmpty settings.data else classification settings.data
  let entries := Labels.select query.category taxonomy.entries
  let count := Labels.count? records
  let report :=
    if settings.output.format = .json then Labels.data entries count
    else Labels.text entries count
  deliver settings.output.file (if entries.isEmpty then .noMatch else .success) report

end DefectCatalog.Command
