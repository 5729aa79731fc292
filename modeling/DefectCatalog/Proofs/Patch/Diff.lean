import DefectCatalog.Patch
import DefectCatalog.Proofs.Text.Splitting
import Mathlib.Algebra.Group.Nat.Defs

/-!
# Well-formed diffs

A diff is a list of files, each with its header lines and its hunks.  The types
admit well-formed diffs only: a text stays on its line, the counts of a hunk are
those of its body, and its line numbers fit into 64 bits.  `Diff.text` writes a
diff down, and `Diff.lines` says what there is to be read in it.
-/

namespace DefectCatalog.Patch

/-- A text that stays on its line. -/
structure LineText where
  chars : List Char
  unbroken : '\n' ∉ chars

/-- What a line of a hunk is. -/
inductive Mark where
  | context
  | deletion
  | addition
  /-- A remark on the line before it, such as that no line feed ends it. -/
  | remark
deriving DecidableEq, Repr

namespace Mark

/-- The character that a line of a hunk starts with. -/
def char : Mark → Char
  | context => ' '
  | deletion => '-'
  | addition => '+'
  | remark => '\\'

/-- The kind of a line of a hunk. -/
def kind : Mark → Kind
  | context | remark => .context
  | deletion => .deletion
  | addition => .addition

/-- Whether a line of a hunk is a line of the old file. -/
def onOld : Mark → Bool
  | context | deletion => true
  | addition | remark => false

def onNew : Mark → Bool
  | context | addition => true
  | deletion | remark => false

/-- Every line but a remark is a line of a file. -/
theorem onOld_or_onNew {m : Mark} (h : m ≠ remark) : m.onOld ∨ m.onNew := by
  cases m <;> simp_all [onOld, onNew]

end Mark

/-- A line of a hunk. -/
structure BodyLine where
  mark : Mark
  rest : LineText

/-- How many lines of the old file there are. -/
def oldCount (body : List BodyLine) : Nat :=
  body.countP fun l => l.mark.onOld

def newCount (body : List BodyLine) : Nat :=
  body.countP fun l => l.mark.onNew

theorem oldCount_cons (l : BodyLine) (body : List BodyLine) :
    oldCount (l :: body) = oldCount body + if l.mark.onOld then 1 else 0 :=
  List.countP_cons

theorem newCount_cons (l : BodyLine) (body : List BodyLine) :
    newCount (l :: body) = newCount body + if l.mark.onNew then 1 else 0 :=
  List.countP_cons

/-- A hunk: where it starts on either side, and its lines. -/
structure Hunk where
  oldStart : Nat
  newStart : Nat
  /-- Whether the header leaves an old count of one out. -/
  oldBrief : Bool
  /-- Whether the header leaves a new count of one out. -/
  newBrief : Bool
  /-- What the header says after the ranges. -/
  heading : LineText
  body : List BodyLine
  old_fits : oldStart + oldCount body < 2 ^ 64
  new_fits : newStart + newCount body < 2 ^ 64

/-- What a header line of a file starts with. -/
inductive HeaderMark where
  | diff
  | index
  | old
  | new
deriving DecidableEq, Repr

/-- The characters that a header line of a file starts with. -/
def HeaderMark.chars : HeaderMark → List Char
  | diff => ['d', 'i', 'f', 'f', ' ']
  | index => ['i', 'n', 'd', 'e', 'x', ' ']
  | old => ['-', '-', '-', ' ']
  | new => ['+', '+', '+', ' ']

/-- A header line of a file. -/
structure HeaderLine where
  mark : HeaderMark
  rest : LineText

/-- The changes to a file. -/
structure FileDiff where
  headers : List HeaderLine
  hunks : List Hunk

/-- The changes to some files. -/
structure Diff where
  files : List FileDiff

/-! ## Writing -/

/-- A range as a hunk header has it; `brief` leaves a count of one out. -/
def Range.chars (r : Range) (brief : Bool) : List Char :=
  Nat.toDigits 10 r.start ++ if brief && r.count == 1 then [] else ',' :: Nat.toDigits 10 r.count

def BodyLine.chars (l : BodyLine) : List Char :=
  l.mark.char :: l.rest.chars

def HeaderLine.chars (l : HeaderLine) : List Char :=
  l.mark.chars ++ l.rest.chars

namespace Hunk

/-- The lines of the old file that a hunk covers. -/
def oldRange (h : Hunk) : Range :=
  ⟨h.oldStart, oldCount h.body⟩

def newRange (h : Hunk) : Range :=
  ⟨h.newStart, newCount h.body⟩

/-- The ranges of a hunk between its at signs. -/
def rangesChars (h : Hunk) : List Char :=
  ['@', '@', ' ', '-'] ++ h.oldRange.chars h.oldBrief ++ [' ', '+'] ++
    h.newRange.chars h.newBrief ++ [' ', '@', '@']

def headerChars (h : Hunk) : List Char :=
  h.rangesChars ++ h.heading.chars

def written (h : Hunk) : List (List Char) :=
  h.headerChars :: h.body.map BodyLine.chars

end Hunk

def FileDiff.written (f : FileDiff) : List (List Char) :=
  f.headers.map HeaderLine.chars ++ f.hunks.flatMap Hunk.written

def Diff.written (d : Diff) : List (List Char) :=
  d.files.flatMap FileDiff.written

/-- A diff written down, a line feed after each line. -/
def Diff.text (d : Diff) : String :=
  String.ofList (d.written.flatMap (· ++ ['\n']))

/-! ## What there is to read -/

/-- The text of a written line; a carriage return at its end goes with the line feed. -/
def shown (line : List Char) : String :=
  String.ofList (Text.chomp line)

/-- A line of a hunk, numbered where it is a line of a file. -/
def BodyLine.line (l : BodyLine) (old new : Nat) : Line where
  kind := l.mark.kind
  old := if l.mark.onOld then some old else none
  new := if l.mark.onNew then some new else none
  text := shown l.chars

/-- The lines of a body, the first ones of the two files having the given numbers. -/
def bodyLines (old new : Nat) : List BodyLine → List Line
  | [] => []
  | l :: rest =>
    l.line old new ::
      bodyLines (if l.mark.onOld then old + 1 else old) (if l.mark.onNew then new + 1 else new) rest

def Hunk.headerLine (h : Hunk) : Line :=
  ⟨.hunkHeader, none, none, shown h.headerChars⟩

def Hunk.lines (h : Hunk) : List Line :=
  h.headerLine :: bodyLines h.oldStart h.newStart h.body

def HeaderLine.line (l : HeaderLine) : Line :=
  ⟨.fileHeader, none, none, shown l.chars⟩

def FileDiff.lines (f : FileDiff) : List Line :=
  f.headers.map HeaderLine.line ++ f.hunks.flatMap Hunk.lines

def Diff.lines (d : Diff) : List Line :=
  d.files.flatMap FileDiff.lines

/-- The lines of the old file are numbered one after the other. -/
theorem filterMap_old_bodyLines (old new : Nat) (body : List BodyLine) :
    (bodyLines old new body).filterMap Line.old = List.range' old (oldCount body) := by
  induction body generalizing old new with
  | nil => rfl
  | cons l body ih =>
      cases hold : l.mark.onOld <;>
        simp [bodyLines, BodyLine.line, oldCount_cons, hold, ih, List.range'_succ]

/-- The lines of the new file are numbered one after the other. -/
theorem filterMap_new_bodyLines (old new : Nat) (body : List BodyLine) :
    (bodyLines old new body).filterMap Line.new = List.range' new (newCount body) := by
  induction body generalizing old new with
  | nil => rfl
  | cons l body ih =>
      cases hnew : l.mark.onNew <;>
        simp [bodyLines, BodyLine.line, newCount_cons, hnew, ih, List.range'_succ]

end DefectCatalog.Patch
