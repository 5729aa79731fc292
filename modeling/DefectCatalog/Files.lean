/-!
# Files

What the catalog needs of a file system.  The operations are a class, so that
the same command runs on the files of a machine and on files held in memory.
-/

namespace DefectCatalog

/-- Why a file cannot be used. -/
inductive FileFault where
  | notFound
  | alreadyExists
  | notADirectory
  | isADirectory
  /-- Any other reason, in the system's own words. -/
  | other (text : String)
deriving DecidableEq, Repr

/-- The system's words for a fault. -/
def FileFault.message : FileFault → String
  | notFound => "No such file or directory (os error 2)"
  | alreadyExists => "File exists (os error 17)"
  | notADirectory => "Not a directory (os error 20)"
  | isADirectory => "Is a directory (os error 21)"
  | other text => text

/-- A monad in which files can be used. -/
class Files (m : Type → Type) where
  /-- The text of a file. -/
  readText (path : String) : m (Except FileFault String)
  /-- Replaces the text of a file, which need not exist; its directory has to. -/
  writeText (path text : String) : m (Except FileFault Unit)
  /-- Whether a path leads to a file or a directory. -/
  isThere (path : String) : m Bool
  /-- Makes a directory and those above it, as far as they are missing. -/
  makeDirectories (path : String) : m (Except FileFault Unit)

end DefectCatalog
