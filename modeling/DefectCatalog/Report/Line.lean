import DefectCatalog.Text.Blank
import DefectCatalog.Text.Lines

/-!
# Report lines

A report line is a sequence of tinted fragments.  Printed with colours, a
tinted fragment stands between two escape sequences; printed plainly, it is
its text.  A fragment without a tint is its text either way.
-/

namespace DefectCatalog.Report

/-- How a fragment is set off. -/
inductive Tint where
  | plain
  | red
  | green
  | yellow
  | cyan
  | bold
  | dim
deriving DecidableEq, Repr

/-- The parameter of the escape sequence that starts a tint. -/
def Tint.code? : Tint → Option String
  | plain => none
  | red => some "31"
  | green => some "32"
  | yellow => some "33"
  | cyan => some "36"
  | bold => some "1"
  | dim => some "2"

/-- A piece of a line with its tint. -/
structure Fragment where
  text : String
  tint : Tint := .plain
deriving DecidableEq, Repr

/-- The fragment as printed. -/
def Fragment.render (colored : Bool) (f : Fragment) : String :=
  match f.tint.code? with
  | some code =>
    if colored then "\x1b[" ++ code ++ "m" ++ f.text ++ "\x1b[0m" else f.text
  | none => f.text

/-- A line of a report; blanks at its end are dropped if `trimmed`. -/
structure Line where
  fragments : List Fragment
  trimmed : Bool := false
deriving DecidableEq, Repr

/-- The line as printed. -/
def Line.render (colored : Bool) (l : Line) : String :=
  let s := String.join (l.fragments.map (·.render colored))
  if l.trimmed then Text.trimmedRight s else s

/-- The lines as printed, with a line feed between any two. -/
def render (colored : Bool) (ls : List Line) : String :=
  Text.joined "\n" (ls.map (·.render colored))

/-- A line without tints. -/
def Line.ofText (s : String) : Line :=
  ⟨[⟨s, .plain⟩], false⟩

/-- A line in one tint. -/
def Line.ofTint (s : String) (tint : Tint) : Line :=
  ⟨[⟨s, tint⟩], false⟩

/-- The empty line. -/
def Line.blank : Line :=
  ⟨[], false⟩

/-- A rule of `n` dashes. -/
def rule (n : Nat) : String :=
  Text.repeated n '─'

end DefectCatalog.Report
