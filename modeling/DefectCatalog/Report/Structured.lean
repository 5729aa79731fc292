import DefectCatalog.Report.Listing

/-!
# Structured reports

A listing or one bug as a JSON value.  A record's own members stand beside the
members of the report, in the report's order, so a name can occur twice; a
reader of the text takes the last.
-/

namespace DefectCatalog.Report.Structured

open Json (Value)

/-- The name and version of the program. -/
def tool : Value :=
  .object [("name", .string "defects-browser"), ("version", .string "0.1.0")]

/-- A natural number. -/
def count (n : Nat) : Value :=
  .number (.integer n)

/-- A list of texts. -/
def texts (ss : List String) : Value :=
  .array (ss.map .string)

/-- A key with its label. -/
def labelled (key label : String) : Value :=
  .object [("key", .string key), ("label", .string label)]

/-- Whether a value is no truth value. -/
def isFree : Value → Bool
  | .bool _ => false
  | _ => true

/-- The members of a record: its flags by key, the patch if it is wanted, and what is neither. -/
def bugMembers (r : Record) (showPatch : Bool) : List (String × Value) :=
  [("project", .string r.project), ("commit", .string r.commit),
    ("classification", texts r.flags)] ++
  (if showPatch then [("patch", .string r.patch)] else []) ++
  r.fields.entries.filter fun e => isFree e.2

/-- A listing. -/
def listing (l : Listing) (o : Options) : Value :=
  .object
    [("tool", tool),
      ("total", count l.total),
      ("shown", count l.records.length),
      ("match_mode", .string l.mode.name),
      ("filters", .array (l.filters.map fun key => labelled key (l.taxonomy.label key))),
      ("sort", texts l.sort.fields),
      ("reverse", .bool l.sort.reverse),
      ("bugs", .array ((l.shown o).map fun r => .object (bugMembers r false)))]

/-- The labels of a record's flags by category; of two groups with one name the last counts. -/
def labels (t : Taxonomy) (r : Record) : List (String × Value) :=
  (t.classify r).foldl
    (fun ms g =>
      Keyed.put ms g.category (.array (g.flags.map fun f => labelled f.key f.label)))
    []

/-- One bug. -/
def bug (r : Record) (t : Taxonomy) (o : Options) : Value :=
  .object
    (("tool", tool) :: bugMembers r o.showPatch ++ [("labels", .object (labels t r))])

end DefectCatalog.Report.Structured
