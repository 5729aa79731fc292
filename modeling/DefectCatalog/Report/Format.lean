import DefectCatalog.Text.Case

/-!
# Report formats

The formats a reader can ask for, and the kind of report that answers each.
-/

namespace DefectCatalog

/-- What a reader can ask for. -/
inductive OutputFormat where
  /-- The browser on a terminal, a summary elsewhere. -/
  | auto
  /-- The browser. -/
  | tui
  /-- A short overview. -/
  | summary
  /-- Aligned columns. -/
  | table
  /-- Structured data. -/
  | json
deriving DecidableEq, Repr, Inhabited

namespace OutputFormat

/-- Every format. -/
def all : List OutputFormat := [auto, tui, summary, table, json]

/-- The name of a format. -/
def name : OutputFormat → String
  | auto => "auto"
  | tui => "tui"
  | summary => "summary"
  | table => "table"
  | json => "json"

/-- The format with a given name; the case of ASCII letters may be ignored. -/
def parse (s : String) (ignoreCase : Bool) : Except String OutputFormat :=
  let same := fun f : OutputFormat =>
    if ignoreCase then Text.sameIgnoringCase f.name s else f.name == s
  match all.find? same with
  | some f => .ok f
  | none => .error ("invalid variant: " ++ s)

/-- The format that `auto` stands for; `onTerminal` tells whether output goes to a terminal. -/
def detect (f : OutputFormat) (onTerminal : Bool) : OutputFormat :=
  if f = auto then (if onTerminal then tui else summary) else f

end OutputFormat

/-- The kinds of reports. -/
inductive ReportKind where
  | summary (colored : Bool)
  | table (colored : Bool)
  | json (pretty : Bool)
deriving DecidableEq, Repr

namespace ReportKind

/-- The kind of report that answers a format. -/
def ofFormat (f : OutputFormat) (colored : Bool) : ReportKind :=
  match f with
  | .auto | .summary => .summary colored
  | .table => .table colored
  | .json | .tui => .json true

/-- The format that a kind of report is. -/
def format : ReportKind → OutputFormat
  | summary _ => .summary
  | table _ => .table
  | json _ => .json

end ReportKind

end DefectCatalog
