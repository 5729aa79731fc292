import DefectCatalog.Patch
import DefectCatalog.Theme.Palette

/-!
# The view of a patch

A patch as lines of the screen: the numbers in the old and the new file at the
left, then the text in the colour of its kind.
-/

namespace DefectCatalog.Browser.PatchView

open Screen

/-- The cells for a line number. -/
def numberWidth : Nat := 5

/-- A line number, or room for one. -/
def number (n : Option Nat) : String :=
  Text.padLeft numberWidth (match n with
    | some n => toString n
    | none => "")

/-- The style of the text of a line. -/
def bodyStyle (p : Palette) : Patch.Kind → Style
  | .fileHeader => (Style.ofColor p.fileHeader).asBold
  | .hunkHeader => .ofColor p.hunk
  | .addition => (Style.ofColor p.added).onColor p.addedGround
  | .deletion => (Style.ofColor p.removed).onColor p.removedGround
  | .context => .ofColor p.text

/-- The text with four spaces for each tab. -/
def expandTabs (s : String) : String :=
  String.ofList (s.toList.flatMap fun c => if c = '\t' then [' ', ' ', ' ', ' '] else [c])

/-- A line of a patch on the screen; headers have no numbers. -/
def line (p : Palette) (l : Patch.Line) : Line :=
  let body : Span := ⟨expandTabs l.text, bodyStyle p l.kind⟩
  match l.kind with
  | .fileHeader | .hunkHeader => .ofSpans [body]
  | _ =>
    .ofSpans [⟨number l.old, p.labelStyle⟩, ⟨number l.new ++ " │ ", p.labelStyle⟩, body]

/-- The lines of a patch on the screen, unless its line numbers overflow. -/
def lines? (p : Palette) (patch : String) : Option (List Line) :=
  (Patch.parse? patch).map fun ls => ls.map (line p)

end DefectCatalog.Browser.PatchView
