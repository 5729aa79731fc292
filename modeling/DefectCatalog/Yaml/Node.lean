import DefectCatalog.Json.Token

/-!
# YAML nodes and plain scalars

A node is a scalar, a sequence or a mapping.  Whether a scalar stands for
nothing, a truth value or a number is decided by its text, and only if it was
written without quotes; any scalar can be taken as text.
-/

namespace DefectCatalog.Yaml

/-- A YAML node; a scalar tells whether it was written without quotes. -/
inductive Node where
  | scalar (text : String) (plain : Bool)
  | sequence (items : List Node)
  | mapping (entries : List (Node × Node))
deriving Inhabited

/-- What an absent value reads as. -/
def Node.empty : Node :=
  .scalar "" true

namespace Scalar

/-- Whether a text stands for nothing. -/
def isNull (s : String) : Bool :=
  ["null", "Null", "NULL", "~"].contains s

/-- The truth value that a text stands for. -/
def bool? (s : String) : Option Bool :=
  if ["true", "True", "TRUE"].contains s then some true
  else if ["false", "False", "FALSE"].contains s then some false
  else none

/-- The value of a digit in a base of at most sixteen. -/
def digit? (base : Nat) (c : Char) : Option Nat := do
  let n ← Json.hexDigit? c
  if n < base then some n else none

/-- The value of at least one digit in a base. -/
def digits? (base : Nat) (s : List Char) : Option Nat :=
  if s.isEmpty then none
  else s.foldlM (fun n c => return n * base + (← digit? base c)) 0

/-- Removes a plus sign. -/
def withoutPlus : List Char → List Char
  | '+' :: rest => rest
  | s => s

/-- Removes a sign. -/
def withoutSign : List Char → List Char
  | '+' :: rest => rest
  | '-' :: rest => rest
  | s => s

/-- Whether a text has digits only, the first of several being zero: such a text is no number. -/
def isPaddedDigits (s : List Char) : Bool :=
  match withoutSign s with
  | '0' :: c :: rest => (c :: rest).all Char.isDigit
  | _ => false

/-- The value of digits after a base mark, or of decimal digits. -/
def magnitude? : List Char → Option Nat
  | '0' :: 'x' :: rest => digits? 16 rest
  | '0' :: 'o' :: rest => digits? 8 rest
  | '0' :: 'b' :: rest => digits? 2 rest
  | s => digits? 10 s

/-- The natural number that a text stands for; zero may have a minus sign. -/
def nat? (s : String) : Option Nat :=
  if isPaddedDigits s.toList then none
  else
    match s.toList with
    | '-' :: rest => (magnitude? rest).filter (· == 0)
    | s => magnitude? (withoutPlus s)

/-- Whether a text stands for an integer of either sign. -/
def isInteger (s : String) : Bool :=
  match s.toList with
  | '-' :: rest => !isPaddedDigits rest && (magnitude? rest).isSome
  | _ => (nat? s).isSome

/-- Whether an optional exponent follows, with digits and nothing after them. -/
def exponentOnly (s : List Char) : Option Int :=
  match Json.exponent? s with
  | some (none, []) => some 0
  | some (some e, []) => some e
  | _ => none

/-- Whether a text stands for a finite decimal number, perhaps with a point or an exponent. -/
def isFinite (s : List Char) : Bool :=
  let s := withoutSign s
  let whole := s.takeWhile Char.isDigit
  let rest := s.dropWhile Char.isDigit
  let (frac, rest) := match rest with
    | '.' :: rest => (rest.takeWhile Char.isDigit, rest.dropWhile Char.isDigit)
    | _ => ([], rest)
  if (whole ++ frac).isEmpty then false
  else
    match exponentOnly rest with
    | some e =>
      (Binary64.ofScientific? false (Json.digitsValue (whole ++ frac)) (e - frac.length)).isSome
    | none => false

/-- Whether a text names an infinity or the absence of a number. -/
def isSpecialNumber (s : String) : Bool :=
  [".inf", ".Inf", ".INF", "+.inf", "+.Inf", "+.INF", "-.inf", "-.Inf", "-.INF", ".nan", ".NaN",
    ".NAN"].contains s

/-- Whether a text, written without quotes, would not be read as text. -/
def needsQuotes (s : String) : Bool :=
  s.isEmpty || isNull s || (bool? s).isSome || isInteger s || isPaddedDigits s.toList ||
    isSpecialNumber s || isFinite s.toList

end Scalar

end DefectCatalog.Yaml
