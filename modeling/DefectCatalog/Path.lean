import DefectCatalog.Text.Blank
import DefectCatalog.Text.Lines

/-!
# Paths

A path is text, cut at slashes.  Empty segments and segments of a single point
say nothing, except at the start, where they make the path absolute or name the
current directory.
-/

namespace DefectCatalog.Path

/-- Whether a path starts at the root. -/
def isAbsolute (p : String) : Bool :=
  p.toList.head? == some '/'

/-- Whether a segment that does not start the path says nothing. -/
def isIdle (segment : String) : Bool :=
  segment.isEmpty || segment == "."

/-- Segments without the idle ones at their end. -/
def dropIdle (segments : List String) : List String :=
  (segments.reverse.dropWhile isIdle).reverse

/-- The segments that say where a path leads. -/
def steps (p : String) : List String :=
  (Text.parts '/' p).filter fun s => !isIdle s

/-- The path that a first segment and further ones make. -/
def assemble (first : String) (rest : List String) : String :=
  if first.isEmpty && rest.isEmpty then "/" else Text.joined "/" (first :: rest)

/-- The path without its last segment; the root and the empty path have no parent. -/
def parent? (p : String) : Option String :=
  match Text.parts '/' p with
  | [] => none
  | first :: rest =>
    match dropIdle rest with
    | [] => if first.isEmpty then none else some ""
    | rest => some (assemble first (dropIdle rest.dropLast))

/-- The path `p`, seen from the directory `directory`. -/
def join (directory p : String) : String :=
  if isAbsolute p || directory.isEmpty then p
  else if directory.toList.getLast? == some '/' then directory ++ p
  else directory ++ "/" ++ p

/-- The path and the paths above it, as many as `fuel` allows. -/
def ancestorsUpTo : Nat → String → List String
  | 0, p => [p]
  | fuel + 1, p =>
    match parent? p with
    | some q => p :: ancestorsUpTo fuel q
    | none => [p]

/-- The path and all paths above it, the nearest first; each is shorter than the one before. -/
def ancestors (p : String) : List String :=
  ancestorsUpTo p.length p

end DefectCatalog.Path
