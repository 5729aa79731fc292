import DefectCatalog.Error
import DefectCatalog.Json.Reader
import DefectCatalog.Taxonomy

/-!
# The two documents

The bug list is a JSON array of records with distinct identities
(`readRecords`); the classification is a JSON object of categories
(`readTaxonomy`).  A document of another shape is refused with the first fault
in document order, worded by `ShapeFault.message`.
-/

namespace DefectCatalog

/-- What a place in a document has to hold. -/
inductive Shape where
  | record
  | text
  | map
  | label
deriving DecidableEq, Repr

/-- The wording of a shape. -/
def Shape.describe : Shape → String
  | record => "struct BugRecord"
  | text => "a string"
  | map => "a map"
  | label => "struct Label"

/-- Why a value has the wrong shape. -/
inductive ShapeFault where
  /-- A value of another kind stands where `expected` should. -/
  | mismatch (found : Json.Value) (expected : Shape)
  /-- A member is absent. -/
  | missing (key : String)
  /-- An identifier is neither text nor number. -/
  | notTextOrNumber
  /-- A label written as an array has too many elements. -/
  | tooLong (length : Nat)

/-- The kind of a value as messages name it. -/
def describeFound : Json.Value → String
  | .null => "null"
  | .bool b => "boolean `" ++ (if b then "true" else "false") ++ "`"
  | .number n =>
    let kind := match n with
      | .integer _ => "integer"
      | .real _ => "floating point"
    kind ++ " `" ++ n.text ++ "`"
  | .string s => "string " ++ Text.quoted s
  | .array _ => "sequence"
  | .object _ => "map"

/-- The wording of a shape fault. -/
def ShapeFault.message : ShapeFault → String
  | mismatch found expected =>
    "invalid type: " ++ describeFound found ++ ", expected " ++ expected.describe
  | missing key => "missing field `" ++ key ++ "`"
  | notTextOrNumber => "data did not match any variant of untagged enum StringOrNumber"
  | tooLong n => "invalid length " ++ toString n ++ ", expected fewer elements in array"

/-- A value that has to be text. -/
def asText : Json.Value → Except ShapeFault String
  | .string s => .ok s
  | v => .error (.mismatch v .text)

/-- A value that is text or nothing. -/
def asOptionalText : Json.Value → Except ShapeFault (Option String)
  | .null => .ok none
  | v => (asText v).map some

/-- A value that is text or a number, which is taken as written. -/
def asIdentifier : Json.Value → Except ShapeFault String
  | .string s => .ok s
  | .number n => .ok n.text
  | _ => .error .notTextOrNumber

/-- A value that has to be an object. -/
def asMembers : Json.Value → Except ShapeFault (List (String × Json.Value))
  | .object members => .ok members
  | v => .error (.mismatch v .map)

namespace Record

/-- What has been read of a record so far. -/
structure Draft where
  project : Option String := none
  commit : Option String := none
  patch : String := ""
  fields : OrderedMap Json.Value := .empty

/-- Reads one member. -/
def Draft.take (d : Draft) (m : String × Json.Value) : Except ShapeFault Draft := do
  let (key, v) := m
  if key = "project" then return { d with project := some (← asText v) }
  else if key = "commit" then return { d with commit := some (← asIdentifier v) }
  else if key = "patch" then return { d with patch := (← asOptionalText v).getD "" }
  else return { d with fields := d.fields.insert key v }

/-- The record, if both parts of its identity were read. -/
def Draft.finish (d : Draft) : Except ShapeFault Record :=
  match d.project, d.commit with
  | none, _ => .error (.missing "project")
  | _, none => .error (.missing "commit")
  | some project, some commit =>
    .ok { project, commit, patch := d.patch, fields := d.fields }

/-- Reads a record: its members in document order, then what is missing. -/
def ofJson : Json.Value → Except ShapeFault Record
  | .object members => do (← members.foldlM Draft.take {}).finish
  | v => .error (.mismatch v .record)

end Record

namespace Label

/-- Reads one member of a label; unknown ones are skipped. -/
def takeMember (l : Label) (m : String × Json.Value) : Except ShapeFault Label := do
  let (key, v) := m
  if key = "name" then return { l with name := ← asText v }
  else if key = "fullname" then return { l with fullname := ← asOptionalText v }
  else return l

/-- Reads a label from an object, or from an array of its name and long name. -/
def ofJson : Json.Value → Except ShapeFault Label
  | .object members => members.foldlM takeMember {}
  | .array items => do
    let name ← match items with
      | v :: _ => asText v
      | [] => .ok ""
    let fullname ← match items with
      | _ :: v :: _ => asOptionalText v
      | _ => .ok none
    if 2 < items.length then .error (.tooLong items.length) else return { name, fullname }
  | v => .error (.mismatch v .label)

end Label

/-- Reads an object whose members all have one shape. -/
def readMap {α : Type} (read : Json.Value → Except ShapeFault α) (v : Json.Value) :
    Except ShapeFault (OrderedMap α) := do
  let members ← asMembers v
  members.foldlM (fun m e => return m.insert e.1 (← read e.2)) .empty

/-- Reads the taxonomy from a JSON value. -/
def Taxonomy.ofJson (v : Json.Value) : Except ShapeFault Taxonomy :=
  Taxonomy.mk <$> readMap (readMap (readMap Label.ofJson)) v

/-- A document of the wrong shape. -/
def wrongShape (place detail : String) : CatalogError :=
  .load place (.unexpectedShape detail)

/-- Reads a JSON text. -/
def readJson (text : String) : Except CatalogError Json.Value :=
  match Json.read? text with
  | some v => .ok v
  | none => .error (.load "JSON deserialization" .malformed)

/-- Reads records, the first of which has position `i`. -/
def recordsFrom (i : Nat) : List Json.Value → Except CatalogError (List Record)
  | [] => .ok []
  | v :: rest =>
    match Record.ofJson v with
    | .error fault => .error (wrongShape ("bug record #" ++ toString i) fault.message)
    | .ok r => do
      let rs ← recordsFrom (i + 1) rest
      return r :: rs

/-- The first record whose identity occurs before it, given the identities seen. -/
def firstRepeated (seen : List (String × String)) : List Record → Option Record
  | [] => none
  | r :: rest => if r.id ∈ seen then some r else firstRepeated (r.id :: seen) rest

/-- Reads records from a JSON value. -/
def recordsOfJson : Json.Value → Except CatalogError (List Record)
  | .array items => do
    let records ← recordsFrom 0 items
    match firstRepeated [] records with
    | some r => .error (.load "bug list" (.duplicateRecord r.project r.commit))
    | none => return records
  | _ => .error (wrongShape "bug list" "expected an array of bug records")

/-- Reads the bug list: an array of records with distinct identities. -/
def readRecords (text : String) : Except CatalogError (List Record) := do
  recordsOfJson (← readJson text)

/-- Reads the classification: an object of categories. -/
def readTaxonomy (text : String) : Except CatalogError Taxonomy := do
  let v ← readJson text
  match v with
  | .object _ =>
    match Taxonomy.ofJson v with
    | .ok t => .ok t
    | .error fault => .error (wrongShape "classification" fault.message)
  | _ => .error (wrongShape "classification" "expected an object of categories")

end DefectCatalog
