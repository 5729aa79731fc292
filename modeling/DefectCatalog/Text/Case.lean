import DefectCatalog.Text.CaseTable
import DefectCatalog.Text.WidthTable

/-!
# Letter case

Lower and upper case of whole strings by the full mappings of the character
database: a letter may become several, and a capital sigma at the end of a
word becomes the final form.
-/

namespace DefectCatalog.Text

/-- The code point `n` shifted by the first run that covers it. -/
def shiftCase (runs : List CaseRun) (n : Nat) : Nat :=
  match runs.find? fun r => r.first ≤ n && n ≤ r.last && (n - r.first) % r.step == 0 with
  | some r => ((n : Int) + r.shift).toNat
  | none => n

/-- The characters that replace `c`, from a table of exceptions and one of runs. -/
def mapCase (long : List (Nat × List Nat)) (runs : List CaseRun) (c : Char) : List Char :=
  match long.find? fun e => e.1 == c.toNat with
  | some e => e.2.map Char.ofNat
  | none => [Char.ofNat (shiftCase runs c.toNat)]

/-- A character in lower case, wherever it stands. -/
def lowerChar (c : Char) : List Char :=
  if c.toNat < 128 then [c.toLower] else mapCase longLower lowerRuns c

/-- A character in upper case. -/
def upperChar (c : Char) : List Char :=
  if c.toNat < 128 then [c.toUpper] else mapCase longUpper upperRuns c

/-- Whether a character has a case. -/
def isCased (c : Char) : Bool :=
  lowerChar c != [c] || upperChar c != [c]

/-- Whether a character may stand inside a word without ending it: marks and a few signs. -/
def isCaseIgnorable (c : Char) : Bool :=
  ['\'', '.', ':', '^', '\x60', '\u00a8', '\u00ad', '\u00af', '\u00b4', '\u00b7', '\u00b8',
    '\u2018', '\u2019', '\u2024', '\u2027'].contains c || inRanges zeroWidthRanges c.toNat

/-- Whether the next character that is not ignorable has a case. -/
def leadsToCased (s : List Char) : Bool :=
  match s.dropWhile isCaseIgnorable with
  | c :: _ => isCased c
  | [] => false

/-- Lower case of a text; `before` holds the characters already passed, the last one first. -/
def lowerFrom (before : List Char) : List Char → List Char
  | [] => []
  | c :: rest =>
    let here :=
      if c = 'Σ' then
        if leadsToCased before && !leadsToCased rest then ['ς'] else ['σ']
      else lowerChar c
    here ++ lowerFrom (c :: before) rest

/-- The string in lower case. -/
def lower (s : String) : String :=
  String.ofList (lowerFrom [] s.toList)

/-- The string in upper case. -/
def upper (s : String) : String :=
  String.ofList (s.toList.flatMap upperChar)

/-- The string with its ASCII capitals in lower case. -/
def asciiLower (s : String) : String :=
  s.map Char.toLower

/-- Whether two strings differ at most in the case of ASCII letters. -/
def sameIgnoringCase (s t : String) : Bool :=
  asciiLower s == asciiLower t

end DefectCatalog.Text
