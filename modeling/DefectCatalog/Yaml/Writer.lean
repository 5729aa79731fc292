import DefectCatalog.Json.Writer
import DefectCatalog.Yaml.Node

/-!
# Writing YAML

Values in block style: a member a line, the items of a list in the column of
their key, empty collections closed at once.  A text is written plainly where
it reads back as the same text; else between single quotes; between double
quotes only where an escape is needed; and as a literal block if it has
several lines.
-/

namespace DefectCatalog.Yaml

open Json (Value)

/-- Whether a character can stand for itself. -/
def isPrintable (c : Char) : Bool :=
  let n := c.toNat
  n == 0x0A || (0x20 ≤ n && n ≤ 0x7E) || (0xA0 ≤ n && n ≤ 0xFFFD && n != 0xFEFF) || 0x10000 ≤ n

/-- Whether a character breaks a line. -/
def isBreak (c : Char) : Bool :=
  c == '\n' || c == '\r' || c == '\u0085' || c == '\u2028' || c == '\u2029'

/-- Whether a character, or the end of the text, separates words. -/
def separates (c : Option Char) : Bool :=
  match c with
  | none => true
  | some c => c == ' ' || c == '\t' || isBreak c

/-- Whether a first character, given the next one, has a meaning of its own. -/
def marksAtStart (c : Char) (next : Option Char) : Bool :=
  "#,[]\x7b\x7d&*!|>'\"%@\x60".toList.contains c ||
    ((c == '?' || c == ':' || c == '-') && separates next)

/-- Whether a colon or hash mark inside a text has a meaning of its own. -/
def marksInside : List Char → Bool
  | [] => false
  | c :: rest =>
    (c == ':' && separates rest.head?) ||
      (separates (some c) && rest.head? == some '#') || marksInside rest

/-- Whether a text can be written without quotes, as far as its characters go. -/
def allowsPlain (s : List Char) : Bool :=
  match s with
  | [] => true
  | c :: rest =>
    !(s.take 3 == ['-', '-', '-'] || s.take 3 == ['.', '.', '.'] || marksAtStart c rest.head? ||
      marksInside s || c == ' ' || s.getLast? == some ' ' || s.any isBreak)

/-- Whether a text can be written between single quotes. -/
def allowsSingle (s : List Char) : Bool :=
  s.all fun c => isPrintable c && !isBreak c

/-- Whether a blank stands before a line break. -/
def blankBeforeBreak : List Char → Bool
  | ' ' :: c :: rest => isBreak c || blankBeforeBreak (c :: rest)
  | _ :: rest => blankBeforeBreak rest
  | [] => false

/-- Whether a text of several lines can be written as a literal block. -/
def allowsLiteral (s : List Char) : Bool :=
  s.all isPrintable && s.getLast? != some ' ' && !blankBeforeBreak s

/-- A hexadecimal number of `n` digits in upper case. -/
def hexPadded (n value : Nat) : List Char :=
  let ds := (Nat.toDigits 16 value).map Char.toUpper
  List.replicate (n - ds.length) '0' ++ ds

/-- A character between double quotes. -/
def escapeChar (c : Char) : List Char :=
  match c with
  | '\x00' => ['\\', '0']
  | '\x07' => ['\\', 'a']
  | '\x08' => ['\\', 'b']
  | '\t' => ['\\', 't']
  | '\n' => ['\\', 'n']
  | '\x0b' => ['\\', 'v']
  | '\x0c' => ['\\', 'f']
  | '\r' => ['\\', 'r']
  | '\x1b' => ['\\', 'e']
  | '"' => ['\\', '"']
  | '\\' => ['\\', '\\']
  | '\u0085' => ['\\', 'N']
  | '\u2028' => ['\\', 'L']
  | '\u2029' => ['\\', 'P']
  | _ =>
    if isPrintable c then [c]
    else if c.toNat ≤ 0xFF then '\\' :: 'x' :: hexPadded 2 c.toNat
    else if c.toNat ≤ 0xFFFF then '\\' :: 'u' :: hexPadded 4 c.toNat
    else '\\' :: 'U' :: hexPadded 8 c.toNat

/-- A text between single quotes. -/
def singleQuote (s : List Char) : String :=
  "'" ++ String.ofList (s.flatMap fun c => if c == '\'' then ['\'', '\''] else [c]) ++ "'"

/-- A text between double quotes. -/
def doubleQuote (s : List Char) : String :=
  "\"" ++ String.ofList (s.flatMap escapeChar) ++ "\""

/-- The lines of a text, the empty one after a final break included. -/
def textLines : List Char → List (List Char)
  | [] => [[]]
  | c :: rest =>
    match textLines rest with
    | l :: ls => if c == '\n' then [] :: l :: ls else (c :: l) :: ls
    | [] => [[c]]

/-- A text as a literal block whose lines start in a column. -/
def literal (column : Nat) (s : List Char) : String :=
  let hint := match s with
    | ' ' :: _ => "2"
    | '\n' :: _ => "2"
    | _ => ""
  let ls := textLines s
  let chomping := match ls.reverse with
    | [] :: [] :: _ => "+"
    | [] :: _ => ""
    | _ => "-"
  let ls := if s.getLast? == some '\n' then ls.dropLast else ls
  let indent := List.replicate column ' '
  "|" ++ hint ++ chomping ++
    String.join (ls.map fun l =>
      "\n" ++ String.ofList (if l.isEmpty then [] else indent ++ l))

/-- A text as a scalar; further lines of it start in a column. -/
def scalarText (column : Nat) (text : String) : String :=
  let s := text.toList
  if s.contains '\n' && allowsLiteral s then literal column s
  else if s.contains '\n' then doubleQuote s
  else if !Scalar.needsQuotes text && allowsPlain s && allowsSingle s then text
  else if allowsSingle s then singleQuote s
  else doubleQuote s

/-- Blanks up to a column. -/
def indentation (column : Nat) : String :=
  String.ofList (List.replicate column ' ')

mutual

/-- A value after its key: on the same line, or on the lines below. -/
def afterKey (column : Nat) : Value → String
  | .object [] => " \x7b\x7d\n"
  | .array [] => " []\n"
  | .object members => "\n" ++ memberLines (column + 2) true members
  | .array items => "\n" ++ itemLines column true items
  | .string s => " " ++ scalarText (column + 2) s ++ "\n"
  | .null => " null\n"
  | .bool b => if b then " true\n" else " false\n"
  | .number n => " " ++ n.text ++ "\n"

/-- A value after the dash of an item. -/
def afterDash (column : Nat) : Value → String
  | .object [] => " \x7b\x7d\n"
  | .array [] => " []\n"
  | .object members => " " ++ memberLines (column + 2) false members
  | .array items => " " ++ itemLines (column + 2) false items
  | .string s => " " ++ scalarText (column + 2) s ++ "\n"
  | .null => " null\n"
  | .bool b => if b then " true\n" else " false\n"
  | .number n => " " ++ n.text ++ "\n"

/-- Members in a column; `fresh` tells whether the first one stands on a new line. -/
def memberLines (column : Nat) (fresh : Bool) : List (String × Value) → String
  | [] => ""
  | (k, v) :: rest =>
    (if fresh then indentation column else "") ++ scalarText column k ++ ":" ++
      afterKey column v ++ memberLines column true rest

/-- Items in a column; `fresh` tells whether the first one stands on a new line. -/
def itemLines (column : Nat) (fresh : Bool) : List Value → String
  | [] => ""
  | v :: rest =>
    (if fresh then indentation column else "") ++ "-" ++ afterDash column v ++
      itemLines column true rest

end

/-- The text of a value. -/
def write : Value → String
  | .object [] => "\x7b\x7d\n"
  | .array [] => "[]\n"
  | .object members => memberLines 0 true members
  | .array items => itemLines 0 true items
  | .string s => scalarText 2 s ++ "\n"
  | .null => "null\n"
  | .bool b => if b then "true\n" else "false\n"
  | .number n => n.text ++ "\n"

end DefectCatalog.Yaml
