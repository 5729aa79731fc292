import DefectCatalog.Decimal.Word
import DefectCatalog.Text.Blank
import DefectCatalog.Text.Lines

/-!
# Unified diffs

`Patch.parse?` names the kind of every line of a patch and numbers the lines
inside hunks.  A hunk ends where the line counts of its header are used up, so
a removed line that itself starts with two dashes is still a deletion, and a
file header is one only outside a hunk.

The numbers are words of 64 bits, and the additions that move them on are
checked: where one overflows, the program ends and there are no lines.
-/

namespace DefectCatalog.Patch

/-- The kind of a line. -/
inductive Kind where
  | fileHeader
  | hunkHeader
  | addition
  | deletion
  | context
deriving DecidableEq, Repr

/-- A line with its kind and its numbers in the old and the new file. -/
structure Line where
  kind : Kind
  old : Option Nat
  new : Option Nat
  text : String
deriving DecidableEq, Repr

/-- One side of a hunk: its first line and its number of lines. -/
structure Range where
  start : Nat
  count : Nat
deriving DecidableEq, Repr

/-- Reads a start and a count with a comma between them; a start alone counts one line. -/
def Range.parse? (s : List Char) : Option Range := do
  let start ← Decimal.word? (s.takeWhile (· != ','))
  match s.dropWhile (· != ',') with
  | [] => return ⟨start, 1⟩
  | _ :: count => return ⟨start, ← Decimal.word? count⟩

/-- The old and the new range of a hunk header: its second and third word. -/
def ranges? (s : List Char) : Option (Range × Range) :=
  match Text.words s with
  | _ :: ('-' :: old) :: ('+' :: new) :: _ => do
    return (← Range.parse? old, ← Range.parse? new)
  | _ => none

/-- Whether a line names a file, its index or one of its sides. -/
def namesFile (s : List Char) : Bool :=
  "diff ".toList.isPrefixOf s || "index ".toList.isPrefixOf s || "--- ".toList.isPrefixOf s ||
    "+++ ".toList.isPrefixOf s

/-- The next line numbers, and how many lines of the hunk are left on each side. -/
structure Counters where
  old : Nat := 0
  new : Nat := 0
  oldLeft : Nat := 0
  newLeft : Nat := 0
deriving DecidableEq, Repr

namespace Counters

/-- Whether the hunk still has lines. -/
def inHunk (c : Counters) : Bool :=
  0 < c.oldLeft || 0 < c.newLeft

/-- Passes a line of the old file. -/
def passOld (c : Counters) : Counters :=
  { c with old := c.old + 1, oldLeft := c.oldLeft - 1 }

/-- Passes a line of the new file. -/
def passNew (c : Counters) : Counters :=
  { c with new := c.new + 1, newLeft := c.newLeft - 1 }

/-- Whether the next line numbers are words of 64 bits. -/
def fit (c : Counters) : Bool :=
  c.old ≤ Decimal.wordLimit && c.new ≤ Decimal.wordLimit

/-- Starts a hunk, if its ranges can be read. -/
def start (c : Counters) : Option (Range × Range) → Counters
  | some (old, new) => ⟨old.start, new.start, old.count, new.count⟩
  | none => c

/-- A number that counts only inside a hunk. -/
def numbered (c : Counters) (n : Nat) : Option Nat :=
  if c.inHunk then some n else none

end Counters

/-- Names the kind of one line, and moves the counters past it. -/
def readLine (c : Counters) (text : String) : Line × Counters :=
  let header := !c.inHunk && namesFile text.toList
  match text.toList with
  | '@' :: '@' :: _ => (⟨.hunkHeader, none, none, text⟩, c.start (ranges? text.toList))
  | first :: _ =>
    if header then (⟨.fileHeader, none, none, text⟩, c)
    else if first = '\\' then (⟨.context, none, none, text⟩, c)
    else if first = '+' then (⟨.addition, none, c.numbered c.new, text⟩, c.passNew)
    else if first = '-' then (⟨.deletion, c.numbered c.old, none, text⟩, c.passOld)
    else (⟨.context, c.numbered c.old, c.numbered c.new, text⟩, c.passOld.passNew)
  | [] => (⟨.context, c.numbered c.old, c.numbered c.new, text⟩, c.passOld.passNew)

/-- Names the kinds of lines in order, unless a number overflows at one of them. -/
def readLines? (c : Counters) : List String → Option (List Line)
  | [] => some []
  | text :: rest =>
    let (line, c) := readLine c text
    if c.fit then (readLines? c rest).map (line :: ·) else none

/-- The lines of a patch with their kinds and numbers. -/
def parse? (patch : String) : Option (List Line) :=
  readLines? {} (Text.lines patch)

end DefectCatalog.Patch
