import DefectCatalog.Json.Writer
import DefectCatalog.Text.Blank
import DefectCatalog.Text.Lines

/-!
# Bug records

A record is identified by its project and its commit.  Every other member of
its document is kept with its value and its place; the members that are exactly
`true` are its flags.  `Record.field` projects a member, named by a dotted
path, to a `Datum`: the kinds that can be compared and shown.
-/

namespace DefectCatalog

/-- One entry of the bug list. -/
structure Record where
  project : String
  commit : String
  patch : String := ""
  fields : OrderedMap Json.Value := .empty

/-- A member of a record, projected for comparing and showing. -/
inductive Datum where
  | bool (b : Bool)
  | number (x : Binary64)
  | text (s : String)
  /-- Absent, null, or a composite value. -/
  | missing
deriving DecidableEq, Repr

namespace Datum

/-- Null and composite values count as missing. -/
def ofJson : Json.Value → Datum
  | .bool b => .bool b
  | .number n => .number n.toBinary64
  | .string s => .text s
  | .null | .array _ | .object _ => .missing

/-- The place of a kind in the order of kinds. -/
def rank : Datum → Nat
  | bool _ => 0
  | number _ => 1
  | text _ => 2
  | missing => 3

/-- The order of field values: within a kind by value, across kinds by rank. -/
def compare : Datum → Datum → Ordering
  | bool a, bool b => Ord.compare a b
  | number a, number b => a.totalCompare b
  | text a, text b => Ord.compare a b
  | a, b => Ord.compare a.rank b.rank

/-- Integers from here on are shown with two places, as fractions are. -/
def plainLimit : Nat := 1000000000000000

/-- The text of a field value in a table. -/
def display : Datum → String
  | bool b => if b then "yes" else "no"
  | number x =>
    if x.isIntegral && x.magnitude < plainLimit * Binary64.unitsPerOne then toString x.truncate
    else x.twoPlaces
  | text s => s
  | missing => "-"

end Datum

namespace Record

/-- A record without patch and further members. -/
def new (project commit : String) : Record :=
  { project, commit }

/-- Sets a member. -/
def setField (r : Record) (key : String) (value : Json.Value) : Record :=
  { r with fields := r.fields.insert key value }

/-- Sets the patch. -/
def setPatch (r : Record) (patch : String) : Record :=
  { r with patch }

/-- What identifies a record. -/
def id (r : Record) : String × String :=
  (r.project, r.commit)

/-- Whether the record is the one of `project` and `commit`. -/
def isAt (r : Record) (project commit : String) : Bool :=
  r.project == project && r.commit == commit

/-- The position of the first record of `project` and `commit`. -/
def position? (records : List Record) (project commit : String) : Option Nat :=
  records.findIdx? fun r => r.isAt project commit

/-- Whether the member `key` is exactly `true`. -/
def flag (r : Record) (key : String) : Bool :=
  match r.fields.get? key with
  | some (.bool true) => true
  | _ => false

/-- The keys of the members that are `true`, in document order. -/
def flags (r : Record) : List String :=
  r.fields.entries.filterMap fun e =>
    match e.2 with
    | .bool true => some e.1
    | _ => none

/-- Descends into nested objects along the segments of a path. -/
def descend : Json.Value → List String → Option Json.Value
  | v, [] => some v
  | .object members, s :: rest =>
    match Keyed.lookup? members s with
    | some v => descend v rest
    | none => none
  | _, _ :: _ => none

/-- The member named by a path; project, commit and patch are named directly. -/
def field (r : Record) (path : String) : Datum :=
  if path = "project" then .text r.project
  else if path = "commit" then .text r.commit
  else if path = "patch" then .text r.patch
  else
    match Text.parts '.' path with
    | [] => .missing
    | first :: rest =>
      match r.fields.get? first with
      | none => .missing
      | some v =>
        match descend v rest with
        | some v => .ofJson v
        | none => .missing

/-- The record as a JSON object: the three named members, then the others. -/
def toJson (r : Record) : Json.Value :=
  .object <|
    ("project", .string r.project) :: ("commit", .string r.commit) ::
      ("patch", .string r.patch) :: r.fields.entries

/-- Counts a line of a patch as added or removed by its first characters. -/
def countLine (counts : Nat × Nat) (line : List Char) : Nat × Nat :=
  match line with
  | '+' :: '+' :: '+' :: _ => counts
  | '-' :: '-' :: '-' :: _ => counts
  | '+' :: _ => (counts.1 + 1, counts.2)
  | '-' :: _ => (counts.1, counts.2 + 1)
  | _ => counts

/-- How many lines the patch adds and removes; file headers do not count. -/
def patchCounts (r : Record) : Nat × Nat :=
  (Text.splitLines r.patch.toList).foldl countLine (0, 0)

end Record

end DefectCatalog
