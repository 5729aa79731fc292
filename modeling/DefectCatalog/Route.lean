import DefectCatalog.Error
import DefectCatalog.Record
import DefectCatalog.Text.Blank

/-!
# Routes and their history

A route is the list or one bug, written `/` and `/bug/<project>/<id>`.
Reading is generous: blanks around the text, leading hash marks and repeated
slashes do not matter.  The history is the current route and the routes before
it, bounded in length; the current route is never pushed again.
-/

namespace DefectCatalog

/-- A place in the catalog. -/
inductive Route where
  | list
  | bug (project id : String)
deriving DecidableEq, Repr, Inhabited

namespace Route

/-- The route of a record. -/
def ofRecord (r : Record) : Route :=
  .bug r.project r.commit

/-- The text of a route. -/
def text : Route → String
  | list => "/"
  | bug project id => "/bug/" ++ project ++ "/" ++ id

/-- The parts of a route's text: trimmed, without hash marks, cut at slashes. -/
def segments (s : String) : List (List Char) :=
  let body := ((Text.trim s.toList).dropWhile (· == '#')).dropWhile (· == '!')
  (Text.splitAt '/' body).filter fun part => !part.isEmpty

/-- Reads a route. -/
def parse (s : String) : Except CatalogError Route :=
  match segments s with
  | [] => .ok list
  | head :: rest =>
    if head = ['b', 'u', 'g'] then
      match rest with
      | [project, id] => .ok (.bug (String.ofList project) (String.ofList id))
      | _ => .error (.route s "expected /bug/<project>/<id>")
    else .error (.route s "unknown route")

end Route

/-- The current route and those before it, the latest first. -/
structure History where
  current : Route
  past : List Route
  limit : Nat
deriving DecidableEq, Repr

namespace History

/-- A history at the list that holds at most `limit` routes, but never less than two. -/
def new (limit : Nat) : History :=
  ⟨.list, [], max limit 2⟩

instance : Inhabited History := ⟨new 100⟩

/-- All routes, the oldest first. -/
def entries (h : History) : List Route :=
  h.past.reverse ++ [h.current]

/-- The number of routes. -/
def size (h : History) : Nat :=
  h.past.length + 1

/-- Moves to a route; the oldest one is forgotten when the limit is passed. -/
def push (h : History) (r : Route) : History :=
  if h.current = r then h
  else { h with current := r, past := (h.current :: h.past).take (h.limit - 1) }

/-- Whether there is a route before the current one. -/
def hasPast (h : History) : Bool :=
  !h.past.isEmpty

/-- Returns to the route before the current one. -/
def back? (h : History) : Option History :=
  match h.past with
  | [] => none
  | r :: rest => some { h with current := r, past := rest }

end History

end DefectCatalog
