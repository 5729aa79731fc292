import DefectCatalog.Text.Case

/-!
# Sources

Where a document is read from: a file, or an address on the network.
-/

namespace DefectCatalog

/-- Where a document is read from. -/
inductive Source where
  | file (path : String)
  | remote (url : String)
deriving DecidableEq, Repr

namespace Source

/-- A text with a web scheme, in any letter case, is an address; every other text is a path. -/
def ofString (s : String) : Source :=
  let start := Text.asciiLower s
  if start.startsWith "http://" || start.startsWith "https://" then .remote s else .file s

/-- Whether the source is on the network. -/
def isRemote : Source → Bool
  | file _ => false
  | remote _ => true

/-- The text of a source. -/
def text : Source → String
  | file path => path
  | remote url => url

end Source

end DefectCatalog
