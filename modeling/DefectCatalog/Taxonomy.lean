import DefectCatalog.Record

/-!
# The taxonomy of flags

A taxonomy gives flags human labels.  It is three levels deep: categories hold
groups, groups hold keys with their labels.  `entries` lists it flat, in
document order; the lookups are searches in that order.  `classify` sorts the
flags of a record into the categories, and collects those the taxonomy does
not know in a last group of their own.
-/

namespace DefectCatalog

/-- The label of a key: a short name, and possibly a long one. -/
structure Label where
  name : String := ""
  fullname : Option String := none
deriving DecidableEq, Repr

/-- The text of a label: the long name unless it is absent or empty. -/
def Label.display (l : Label) : String :=
  match l.fullname with
  | some full => if full.isEmpty then l.name else full
  | none => l.name

/-- Labels by category, group and key. -/
structure Taxonomy where
  categories : OrderedMap (OrderedMap (OrderedMap Label))

namespace Taxonomy

/-- The category of repair actions. -/
def repairActions : String := "Repair Actions"

/-- The category of repair patterns. -/
def repairPatterns : String := "Repair Patterns"

/-- The heading of flags that no category describes. -/
def unclassified : String := "Other"

/-- The category of runtime information. -/
def runtimeInformation : String := "Runtime Information"

/-- The group of `runtimeInformation` that lists repair tools. -/
def automaticRepair : String := "Automatic Repair"

/-- A key with its place in the taxonomy. -/
structure Entry where
  category : String
  group : String
  key : String
  label : Label
deriving DecidableEq, Repr

/-- A flag of a record under a category. -/
structure Flag where
  group : String
  key : String
  label : String
deriving DecidableEq, Repr

/-- The flags of a record in one category, in taxonomy order. -/
structure CategoryFlags where
  category : String
  flags : List Flag
deriving DecidableEq, Repr

/-- The taxonomy without categories. -/
def empty : Taxonomy := ⟨.empty⟩

instance : Inhabited Taxonomy := ⟨empty⟩

/-- Sets the label of a key, making its category and group where they are new. -/
def insert (t : Taxonomy) (category group key : String) (label : Label) : Taxonomy :=
  let groups := (t.categories.get? category).getD .empty
  let labels := (groups.get? group).getD .empty
  ⟨t.categories.insert category (groups.insert group (labels.insert key label))⟩

/-- Whether there is no category. -/
def isEmpty (t : Taxonomy) : Bool :=
  t.categories.entries.isEmpty

/-- The names of the categories. -/
def categoryNames (t : Taxonomy) : List String :=
  t.categories.keys

/-- Every key with its place and label, in document order. -/
def entries (t : Taxonomy) : List Entry :=
  t.categories.entries.flatMap fun (category, groups) =>
    groups.entries.flatMap fun (group, labels) =>
      labels.entries.map fun (key, label) => { category, group, key, label }

/-- The number of keys over all categories. -/
def size (t : Taxonomy) : Nat :=
  t.entries.length

/-- The first label of `key` in the groups of one category. -/
def findInGroups (groups : OrderedMap (OrderedMap Label)) (key : String) : Option Label :=
  groups.values.findSome? fun labels => labels.get? key

/-- The first label of `key` in any category. -/
def find? (t : Taxonomy) (key : String) : Option Label :=
  t.categories.values.findSome? fun groups => findInGroups groups key

/-- The text for `key`; an unknown key is its own text. -/
def label (t : Taxonomy) (key : String) : String :=
  match t.find? key with
  | some l => l.display
  | none => key

/-- The text for `key` within one category. -/
def labelWithin? (t : Taxonomy) (category key : String) : Option String := do
  let groups ← t.categories.get? category
  let l ← findInGroups groups key
  return l.display

/-- The text for a repair tool. -/
def toolLabel? (t : Taxonomy) (key : String) : Option String := do
  let groups ← t.categories.get? runtimeInformation
  let labels ← groups.get? automaticRepair
  let l ← labels.get? key
  return l.display

/-- The flag of an entry. -/
def Entry.flag (e : Entry) : Flag :=
  ⟨e.group, e.key, e.label.display⟩

/-- Puts neighbouring entries of one category into one group. -/
def gather : List Entry → List CategoryFlags
  | [] => []
  | e :: rest =>
    match gather rest with
    | g :: gs =>
      if g.category = e.category then ⟨g.category, e.flag :: g.flags⟩ :: gs
      else ⟨e.category, [e.flag]⟩ :: g :: gs
    | [] => [⟨e.category, [e.flag]⟩]

/-- The flags of a record that the taxonomy does not know, in document order. -/
def unknownFlags (t : Taxonomy) (r : Record) : List String :=
  r.flags.filter fun key => (t.find? key).isNone

/-- The flags of a record by category; unknown ones come last, labelled by their key. -/
def classify (t : Taxonomy) (r : Record) : List CategoryFlags :=
  let unknown := t.unknownFlags r
  gather (t.entries.filter fun e => r.flag e.key) ++
    if unknown.isEmpty then []
    else [⟨unclassified, unknown.map fun key => ⟨"", key, key⟩⟩]

/-- A label as a JSON object; an absent long name is left out. -/
def labelToJson (l : Label) : Json.Value :=
  .object <|
    ("name", .string l.name) ::
      match l.fullname with
      | some full => [("fullname", .string full)]
      | none => []

/-- The taxonomy as a JSON object of objects. -/
def toJson (t : Taxonomy) : Json.Value :=
  .object <| t.categories.entries.map fun (category, groups) =>
    (category, .object <| groups.entries.map fun (group, labels) =>
      (group, .object <| labels.entries.map fun (key, l) => (key, labelToJson l)))

end Taxonomy

end DefectCatalog
