/-!
# Lines

A line ends at a line feed or at a carriage return with a line feed.  The end
of the text ends the last line; a text that ends in a line break has no empty
line after it.  `unlines` puts lines together again, each with its line feed.
-/

namespace DefectCatalog.Text

/-- The lines of a text, without their ends. -/
def splitLines : List Char → List (List Char)
  | [] => []
  | '\n' :: rest => [] :: splitLines rest
  | '\r' :: '\n' :: rest => [] :: splitLines rest
  | c :: rest =>
    match rest, splitLines rest with
    | [], _ => [[c]]
    | _ :: _, line :: lines => (c :: line) :: lines
    | _ :: _, [] => [[c]]

/-- The lines of a string, without their ends. -/
def lines (s : String) : List String :=
  (splitLines s.toList).map String.ofList

/-- Lines with a line feed after each. -/
def unlines (ls : List String) : String :=
  String.join (ls.map (· ++ "\n"))

/-- Parts with a separator between them. -/
def joined (sep : String) (parts : List String) : String :=
  sep.intercalate parts

/-- A string of `n` copies of a character. -/
def repeated (n : Nat) (c : Char) : String :=
  String.ofList (List.replicate n c)

/-- The string, extended with spaces on the right to at least `n` characters. -/
def padRight (n : Nat) (s : String) : String :=
  s ++ repeated (n - s.length) ' '

/-- The string, extended with spaces on the left to at least `n` characters. -/
def padLeft (n : Nat) (s : String) : String :=
  repeated (n - s.length) ' ' ++ s

end DefectCatalog.Text
