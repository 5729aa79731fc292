import DefectCatalog.Json.Token

/-!
# Reading JSON

The grammar is a machine that takes one token at a time and keeps the open
arrays and objects on a stack.  Reading a text is running it over the tokens:
`read?` answers a value exactly when the machine ends with one and nothing is
left open.  At most `maxDepth` containers may be open at once.
-/

namespace DefectCatalog.Json

/-- An open container; an object also holds the key whose value is being read. -/
inductive Frame where
  | array (before : List Value)
  | object (before : List (String × Value)) (key : String)
deriving Repr

/-- What the machine waits for, with the containers open around it. -/
inductive ReaderState where
  /-- A value has to come. -/
  | value (outer : List Frame)
  /-- An array has just been opened: a value or its end. -/
  | firstItem (outer : List Frame)
  /-- An item has been read: a comma or the end of the array. -/
  | afterItem (items : List Value) (outer : List Frame)
  /-- A key has to come; just after the opening brace the object may also end. -/
  | key (members : List (String × Value)) (mayClose : Bool) (outer : List Frame)
  /-- A key has been read: a colon. -/
  | colon (members : List (String × Value)) (key : String) (outer : List Frame)
  /-- A member has been read: a comma or the end of the object. -/
  | afterMember (members : List (String × Value)) (outer : List Frame)
  /-- The text's value is complete. -/
  | done (v : Value)
deriving Repr

/-- The deepest nesting of containers that is read. -/
def maxDepth : Nat := 127

/-- Hands a complete value to the container around it. -/
def complete (v : Value) : List Frame → ReaderState
  | [] => .done v
  | .array before :: outer => .afterItem (before ++ [v]) outer
  | .object before key :: outer => .afterMember (Keyed.put before key v) outer

/-- Starts a value inside the open containers. -/
def startValue (outer : List Frame) : Token → Option ReaderState
  | .scalar v => some (complete v outer)
  | .openArray => if outer.length < maxDepth then some (.firstItem outer) else none
  | .openObject => if outer.length < maxDepth then some (.key [] true outer) else none
  | _ => none

/-- Takes one token. -/
def ReaderState.step? : ReaderState → Token → Option ReaderState
  | .value outer, t => startValue outer t
  | .firstItem outer, .closeArray => some (complete (.array []) outer)
  | .firstItem outer, t => startValue (.array [] :: outer) t
  | .afterItem items outer, .comma => some (.value (.array items :: outer))
  | .afterItem items outer, .closeArray => some (complete (.array items) outer)
  | .key members _ outer, .scalar (.string k) => some (.colon members k outer)
  | .key members true outer, .closeObject => some (complete (.object members) outer)
  | .colon members k outer, .colon => some (.value (.object members k :: outer))
  | .afterMember members outer, .comma => some (.key members false outer)
  | .afterMember members outer, .closeObject => some (complete (.object members) outer)
  | _, _ => none

/-- Takes the tokens in order. -/
def ReaderState.run? (s : ReaderState) (ts : List Token) : Option ReaderState :=
  ts.foldlM ReaderState.step? s

/-- The value of a JSON text, or nothing if the text is malformed. -/
def read? (text : String) : Option Value := do
  let ts ← lex? text.toList
  match ← (ReaderState.value []).run? ts with
  | .done v => some v
  | _ => none

end DefectCatalog.Json
