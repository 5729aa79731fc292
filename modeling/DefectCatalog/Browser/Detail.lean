import DefectCatalog.Browser.PatchView
import DefectCatalog.Taxonomy

/-!
# The detail of a bug

What the detail shows above the patch: the members of the record with plain
values, and the flags in sections.
-/

namespace DefectCatalog.Browser.Detail

open Screen
open Json (Value)

/-- The text of a value that is shown as a metric; containers are not. -/
def plainText? : Value → Option String
  | .string s => some s
  | .array _ | .object _ => none
  | v => some v.compact

/-- The metrics of a member: its value, or the values of its own members. -/
def memberMetrics (key : String) : Value → List (String × String)
  | .bool _ | .null | .array _ => []
  | .object members =>
    members.filterMap fun m => (plainText? m.2).map fun text => (key ++ "." ++ m.1, text)
  | v => (plainText? v).toList.map fun text => (key, text)

/-- The metrics of a record. -/
def metrics (r : Record) : List (String × String) :=
  r.fields.entries.flatMap fun e => memberMetrics e.1 e.2

/-- The spans of a metric. -/
def metricPair (p : Palette) (m : String × String) : List Span :=
  [⟨m.1 ++ ": ", p.labelStyle⟩, ⟨m.2, p.valueStyle⟩]

/-- The metrics of a record in a row. -/
def metricsLine (p : Palette) (ms : List (String × String)) : Line :=
  .ofSpans (List.intercalate [⟨"  ", .plain⟩] (ms.map (metricPair p)))

/-- Flags under a heading. -/
structure Section where
  heading : String
  color : Color
  items : List String
deriving DecidableEq, Repr

/-- The sections of a record's flags: two categories by label, the repair tools, and the flags that
the taxonomy does not know. -/
def sections (p : Palette) (t : Taxonomy) (r : Record) : List Section :=
  [⟨"Repair Actions", p.action,
      r.flags.filterMap (t.labelWithin? Taxonomy.repairActions)⟩,
    ⟨"Repair Patterns", p.pattern,
      r.flags.filterMap (t.labelWithin? Taxonomy.repairPatterns)⟩,
    ⟨"Repaired by", p.runtime, r.flags.filterMap t.toolLabel?⟩,
    ⟨"Other flags", p.textMuted, t.unknownFlags r⟩]

/-- The lines of a section; one without flags has none. -/
def sectionLines (p : Palette) (s : Section) : List Line :=
  if s.items.isEmpty then []
  else
    .styled s.heading (Style.ofColor s.color).asBold ::
      s.items.map fun item => .ofSpans [⟨"  • ", p.labelStyle⟩, ⟨item, p.textStyle⟩]

/-- The lines above the patch. -/
def lines (p : Palette) (t : Taxonomy) (r : Record) : List Line :=
  let ms := metrics r
  let top := if ms.isEmpty then [] else [metricsLine p ms, .empty]
  let all := top ++ (sections p t r).flatMap (sectionLines p)
  if all.isEmpty then [.styled "No classification" p.mutedStyle] else all

end DefectCatalog.Browser.Detail
