import DefectCatalog.Files
import DefectCatalog.Path

/-!
# Files in memory

A disk is a list of directories and files under their places below the root,
with a current directory.  A path is followed segment by segment, and every
segment but the last has to lead to a directory.
-/

namespace DefectCatalog

/-- The names that lead from the root to an entry. -/
abbrev Place := List String

/-- What stands at a place. -/
inductive DiskEntry where
  | directory
  | file (text : String)
deriving DecidableEq, Repr

/-- Entries under their places; the root is a directory without an entry. -/
structure Disk where
  entries : List (Place × DiskEntry)
  current : Place
deriving Repr

namespace Disk

/-- The entry at a place. -/
def entry? (d : Disk) (place : Place) : Option DiskEntry :=
  if place.isEmpty then some .directory else d.entries.lookup place

/-- Sets the entry at a place. -/
def setEntry (d : Disk) (place : Place) (e : DiskEntry) : Disk :=
  { d with entries := (place, e) :: d.entries.filter fun other => other.1 != place }

/-- The disk with the directory at a place and those above it. -/
def withDirectory (d : Disk) (place : Place) : Disk :=
  (List.range place.length).foldl
    (fun d n =>
      let above := place.take (n + 1)
      if (d.entry? above).isSome then d else d.setEntry above .directory) d

/-- The disk with a file at a place, and the directories above it. -/
def withFile (d : Disk) (place : Place) (text : String) : Disk :=
  (d.withDirectory place.dropLast).setEntry place (.file text)

/-- Follows a segment from the directory at a place. -/
def step (d : Disk) (place : Place) (segment : String) : Except FileFault Place :=
  match d.entry? place with
  | none => .error .notFound
  | some (.file _) => .error .notADirectory
  | some .directory =>
    .ok (if Path.isIdle segment then place
      else if segment = ".." then place.dropLast
      else place ++ [segment])

/-- Where a path leads; nothing need stand there. -/
def resolve (d : Disk) (path : String) : Except FileFault Place :=
  if path.isEmpty then .error .notFound
  else (Text.parts '/' path).foldlM d.step (if Path.isAbsolute path then [] else d.current)

/-- The entry that a path leads to. -/
def find (d : Disk) (path : String) : Except FileFault DiskEntry := do
  match d.entry? (← d.resolve path) with
  | some e => return e
  | none => throw .notFound

/-- Whether a path leads to an entry. -/
def isThere (d : Disk) (path : String) : Bool :=
  (d.find path).isOk

/-- The text of the file that a path leads to. -/
def readText (d : Disk) (path : String) : Except FileFault String := do
  match ← d.find path with
  | .file text => return text
  | .directory => throw .isADirectory

/-- Replaces the text of a file; a path that ends in a slash means a directory. -/
def writeText (d : Disk) (path text : String) : Except FileFault Disk := do
  let bare := String.ofList (path.toList.reverse.dropWhile (· == '/')).reverse
  let place ← if bare.isEmpty && !path.isEmpty then pure [] else d.resolve bare
  match d.entry? place with
  | some .directory => throw .isADirectory
  | _ => if bare = path then return d.setEntry place (.file text) else throw .isADirectory

/-- Makes a directory in a directory that is there. -/
def makeDirectory (d : Disk) (path : String) : Except FileFault Disk := do
  let place ← d.resolve path
  match d.entry? place with
  | some _ => throw .alreadyExists
  | none => return d.setEntry place .directory

/-- Makes the first directory of a list; the others are those above it, the nearest first. -/
def makeNested (d : Disk) : List String → Except FileFault Disk
  | [] => .error .notFound
  | path :: above =>
    if path.isEmpty then .ok d
    else
      match d.makeDirectory path with
      | .ok d => .ok d
      | .error .notFound => do (← d.makeNested above).makeDirectory path
      | .error fault =>
        match d.find path with
        | .ok .directory => .ok d
        | _ => .error fault

/-- Makes a directory and those above it, as far as they are missing. -/
def makeDirectories (d : Disk) (path : String) : Except FileFault Disk :=
  d.makeNested (Path.ancestors path)

/-- Keeps the changed disk, if there is one. -/
def keep (change : Disk → Except FileFault Disk) : StateM Disk (Except FileFault Unit) :=
  fun d =>
    match change d with
    | .ok changed => (.ok (), changed)
    | .error fault => (.error fault, d)

instance : Files (StateM Disk) where
  readText path := fun d => (d.readText path, d)
  writeText path text := keep fun d => d.writeText path text
  isThere path := fun d => (d.isThere path, d)
  makeDirectories path := keep fun d => d.makeDirectories path

end Disk

end DefectCatalog
