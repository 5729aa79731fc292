/-!
# Blanks

The white space of the character database, and trimming and splitting by it.
-/

namespace DefectCatalog.Text

/-- The characters with the white space property. -/
def isBlank (c : Char) : Bool :=
  let n := c.toNat
  (9 ≤ n && n ≤ 13) || n == 0x20 || n == 0x85 || n == 0xA0 || n == 0x1680 ||
    (0x2000 ≤ n && n ≤ 0x200A) || n == 0x2028 || n == 0x2029 || n == 0x202F || n == 0x205F ||
    n == 0x3000

/-- The text without the blanks at its start. -/
def trimLeft (s : List Char) : List Char :=
  s.dropWhile isBlank

/-- The text without the blanks at its end. -/
def trimRight (s : List Char) : List Char :=
  (s.reverse.dropWhile isBlank).reverse

/-- The text without the blanks at both ends. -/
def trim (s : List Char) : List Char :=
  trimRight (trimLeft s)

/-- The string without the blanks at its end. -/
def trimmedRight (s : String) : String :=
  String.ofList (trimRight s.toList)

/-- The string without the blanks at both ends. -/
def trimmed (s : String) : String :=
  String.ofList (trim s.toList)

/-- The words of a text: its longest runs without a blank. -/
def words : List Char → List (List Char)
  | [] => []
  | c :: rest =>
    if isBlank c then words rest
    else
      match rest, words rest with
      | [], ws => [c] :: ws
      | d :: _, ws =>
        if isBlank d then [c] :: ws
        else
          match ws with
          | w :: ws => (c :: w) :: ws
          | [] => [[c]]

/-- Cuts a text at each `sep`; a text without one is a single part. -/
def splitAt (sep : Char) : List Char → List (List Char)
  | [] => [[]]
  | c :: rest =>
    match splitAt sep rest with
    | part :: parts => if c = sep then [] :: part :: parts else (c :: part) :: parts
    | [] => [[c]]

/-- The parts of a string between occurrences of `sep`. -/
def parts (sep : Char) (s : String) : List String :=
  (splitAt sep s.toList).map String.ofList

end DefectCatalog.Text
