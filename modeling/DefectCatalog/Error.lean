import DefectCatalog.Text.Quoted

/-!
# Errors

What can go wrong around a catalog, as causes, and the one wording of each
(`CatalogError.message`).  A context added to an error is put in front of the
text that already describes what was being done.
-/

namespace DefectCatalog

/-- Why a document was not loaded. -/
inductive LoadFault where
  /-- The text is not JSON. -/
  | malformed
  /-- The JSON value has another shape than the document. -/
  | unexpectedShape (detail : String)
  /-- Two records share project and commit. -/
  | duplicateRecord (project commit : String)
  /-- The network failed. -/
  | network (detail : String)
  /-- A server refused. -/
  | httpStatus (status : Nat) (url : String)
  /-- The document is remote, and remote documents are not read. -/
  | remoteDisabled (url : String)
deriving DecidableEq, Repr

/-- The wording of a load fault. -/
def LoadFault.message : LoadFault → String
  | malformed => "Invalid JSON structure"
  | unexpectedShape detail => "Unexpected document shape: " ++ detail
  | duplicateRecord project commit =>
    "Duplicate bug record: " ++ project ++ "/" ++ commit
  | network detail => "Network error: " ++ detail
  | httpStatus status url => "HTTP status " ++ toString status ++ " from " ++ url
  | remoteDisabled url => "Remote sources are not supported in this build: " ++ url

/-- An error of the catalog. -/
inductive CatalogError where
  /-- A document could not be loaded. -/
  | load (context : String) (fault : LoadFault)
  /-- A text is no route. -/
  | route (text reason : String)
  /-- A file could not be used; `detail` is the system's own text. -/
  | io (path : Option String) (detail : String) (cause : String)
  /-- A configuration cannot be used. -/
  | config (detail : String)
  /-- A value is not acceptable. -/
  | validation (detail : String)
deriving DecidableEq, Repr

namespace CatalogError

/-- A failed use of the file at `path`. -/
def ioAt (path cause : String) : CatalogError :=
  .io (some path) cause cause

/-- The wording of an error. -/
def message : CatalogError → String
  | load context _ => "Failed to load data: " ++ context
  | route text reason => "Invalid route '" ++ text ++ "': " ++ reason
  | io path detail _ =>
    let shown := match path with
      | some p => "Some(" ++ Text.quoted p ++ ")"
      | none => "None"
    "IO error at " ++ shown ++ ": " ++ detail
  | config detail => "Invalid configuration: " ++ detail
  | validation detail => "Validation failed: " ++ detail

/-- The wording of what lies behind an error, if anything does. -/
def causeMessage? : CatalogError → Option String
  | load _ fault => some fault.message
  | io _ _ cause => some cause
  | _ => none

/-- Puts a new context in front of an existing one. -/
def chain (context existing : String) : String :=
  if existing.isEmpty then context else context ++ ": " ++ existing

/-- The error, with what was being done put in front of its description. -/
def inContext (context : String) : CatalogError → CatalogError
  | load existing fault => .load (chain context existing) fault
  | route text reason => .route text (chain context reason)
  | io path detail cause => .io path (chain context detail) cause
  | config detail => .config (chain context detail)
  | validation detail => .validation (chain context detail)

/-- The error's wording followed by its causes. -/
def chainMessage (e : CatalogError) : String :=
  match e.causeMessage? with
  | some cause => e.message ++ ": " ++ cause
  | none => e.message

end CatalogError

end DefectCatalog
