import DefectCatalog.Record
import DefectCatalog.Text.Case

/-!
# Filters

`Filters` remember keys and whether each is active; inactive keys keep their
place but take no part in matching.  With no active key every record passes;
otherwise the match mode says whether all active keys have to be flags of the
record, or any of them.
-/

namespace DefectCatalog

/-- How the active keys of a filter set combine. -/
inductive Matching where
  | all
  | any
deriving DecidableEq, Repr, Inhabited

namespace Matching

/-- The other mode. -/
def toggled : Matching → Matching
  | all => any
  | any => all

/-- The name of a mode. -/
def name : Matching → String
  | all => "all"
  | any => "any"

/-- Reads a mode's name in any letter case; the error names what was found in lower case. -/
def parse (s : String) : Except String Matching :=
  let found := Text.lower s
  if found = "all" then .ok all
  else if found = "any" then .ok any
  else .error ("unknown match mode '" ++ found ++ "' (expected all or any)")

end Matching

/-- Keys in the order in which they were first mentioned, each active or not. -/
structure Filters where
  keys : OrderedMap Bool

namespace Filters

/-- The set without keys. -/
def empty : Filters := ⟨.empty⟩

instance : Inhabited Filters := ⟨empty⟩

/-- Sets the state of a key. -/
def set (f : Filters) (key : String) (active : Bool) : Filters :=
  ⟨f.keys.insert key active⟩

/-- A set with every given key active. -/
def ofActive (keys : List String) : Filters :=
  keys.foldl (fun f key => f.set key true) empty

/-- Whether a key is active; an unknown one is not. -/
def isActive (f : Filters) (key : String) : Bool :=
  (f.keys.get? key).getD false

/-- Flips a key. -/
def toggle (f : Filters) (key : String) : Filters :=
  f.set key (!f.isActive key)

/-- Flips a key and answers its new state. -/
def flip (f : Filters) (key : String) : Bool × Filters :=
  (!f.isActive key, f.toggle key)

/-- Makes every key inactive. -/
def clear (f : Filters) : Filters :=
  ⟨f.keys.mapValues fun _ => false⟩

/-- The active keys, in the order in which they were first mentioned. -/
def active (f : Filters) : List String :=
  f.keys.entries.filterMap fun e => if e.2 then some e.1 else none

/-- How many keys are active. -/
def activeCount (f : Filters) : Nat :=
  f.active.length

/-- Whether no key is active. -/
def passesAll (f : Filters) : Bool :=
  f.active.isEmpty

/-- Whether a record passes. -/
def accepts (f : Filters) (r : Record) (mode : Matching) : Bool :=
  if f.passesAll then true
  else
    match mode with
    | .all => f.active.all r.flag
    | .any => f.active.any r.flag

/-- The set as a JSON object of booleans. -/
def toJson (f : Filters) : Json.Value :=
  .object (f.keys.entries.map fun e => (e.1, .bool e.2))

end Filters

end DefectCatalog
