import DefectCatalog.Decimal.Scaling
import DefectCatalog.Decimal.Word
import DefectCatalog.Json.Value

/-!
# JSON tokens

`lex?` cuts a text into punctuation and scalars, and refuses what is neither.
A text in which two scalars touch is refused later, by the grammar, so tokens
need no separator.  Every step leaves a shorter rest, which is why the lexer
ends.
-/

namespace DefectCatalog.Json

/-- A punctuation mark or a scalar value. -/
inductive Token where
  | openArray
  | closeArray
  | openObject
  | closeObject
  | comma
  | colon
  | scalar (v : Value)
deriving Repr

/-- The value of a hexadecimal digit of either case. -/
def hexDigit? (c : Char) : Option Nat :=
  if '0' ≤ c ∧ c ≤ '9' then some (c.toNat - 48)
  else if 'a' ≤ c ∧ c ≤ 'f' then some (c.toNat - 87)
  else if 'A' ≤ c ∧ c ≤ 'F' then some (c.toNat - 55)
  else none

/-- The value of four hexadecimal digits. -/
def hexUnit? (a b c d : Char) : Option Nat := do
  let a ← hexDigit? a
  let b ← hexDigit? b
  let c ← hexDigit? c
  let d ← hexDigit? d
  return ((a * 16 + b) * 16 + c) * 16 + d

/-- The character a one-letter escape stands for. -/
def escaped? : Char → Option Char
  | '"' => some '"'
  | '\\' => some '\\'
  | '/' => some '/'
  | 'b' => some '\x08'
  | 'f' => some '\x0c'
  | 'n' => some '\n'
  | 'r' => some '\r'
  | 't' => some '\t'
  | _ => none

/-- A part of a string literal: a character, or a 16-bit unit written in hexadecimal. -/
inductive Piece where
  | char (c : Char)
  | unit (u : Nat)
deriving Repr

/-- Reads the pieces of a string literal up to its closing quote, and returns what follows. -/
def pieces? : List Char → Option (List Piece × List Char)
  | [] => none
  | '"' :: rest => some ([], rest)
  | '\\' :: 'u' :: a :: b :: c :: d :: rest => do
    let u ← hexUnit? a b c d
    let (ps, rest) ← pieces? rest
    return (.unit u :: ps, rest)
  | '\\' :: c :: rest => do
    let c ← escaped? c
    let (ps, rest) ← pieces? rest
    return (.char c :: ps, rest)
  | c :: rest =>
    if c.toNat < 32 then none
    else do
      let (ps, rest) ← pieces? rest
      return (.char c :: ps, rest)

/-- Joins pieces into characters: a high surrogate needs a low one right after it. -/
def joinPieces? : List Piece → Option (List Char)
  | [] => some []
  | .char c :: rest => (joinPieces? rest).map (c :: ·)
  | .unit u :: rest =>
    if u < 0xD800 || 0xDFFF < u then (joinPieces? rest).map (Char.ofNat u :: ·)
    else
      match rest with
      | .unit v :: rest =>
        if u < 0xDC00 && 0xDC00 ≤ v && v ≤ 0xDFFF then
          (joinPieces? rest).map (Char.ofNat (0x10000 + (u - 0xD800) * 0x400 + (v - 0xDC00)) :: ·)
        else none
      | _ => none

/-- The value of a string of decimal digits. -/
def digitsValue (ds : List Char) : Nat :=
  ds.foldl (fun n c => 10 * n + (c.toNat - 48)) 0

/-- An optional part of a number: what `mark` opens, then at least one digit.

`none` means that the mark stands without digits. -/
def fraction? : List Char → Option (List Char × List Char)
  | '.' :: rest =>
    let ds := rest.takeWhile Char.isDigit
    if ds.isEmpty then none else some (ds, rest.dropWhile Char.isDigit)
  | rest => some ([], rest)

/-- Splits an optional sign off. -/
def sign (s : List Char) : Bool × List Char :=
  match s with
  | '-' :: rest => (true, rest)
  | '+' :: rest => (false, rest)
  | _ => (false, s)

/-- The optional exponent of a number. -/
def exponent? : List Char → Option (Option Int × List Char)
  | [] => some (none, [])
  | c :: rest =>
    if c = 'e' ∨ c = 'E' then
      let (negative, rest) := sign rest
      let ds := rest.takeWhile Char.isDigit
      if ds.isEmpty then none
      else
        let n : Int := digitsValue ds
        some (some (if negative then -n else n), rest.dropWhile Char.isDigit)
    else some (none, c :: rest)

/-- Appends digits to a number as long as it fits into 64 bits, and returns the digits that are
left over. -/
def accumulate (n : Nat) : List Char → Nat × List Char
  | [] => (n, [])
  | c :: rest =>
    let next := 10 * n + (c.toNat - 48)
    if next ≤ Decimal.wordLimit then accumulate next rest else (n, c :: rest)

/-- The number with the given parts.

Without fraction and exponent it stays an integer if it fits into 64 bits, and a negative zero
does not.  Otherwise the digits that fit into 64 bits are scaled by a power of ten: digits of the
integer part that are left over raise the exponent, and those of the fraction are dropped. -/
def numberOfParts? (negative : Bool) (whole frac : List Char) (exponent : Option Int) :
    Option Number :=
  let (significand, excess) := accumulate 0 whole
  if frac.isEmpty && exponent.isNone && excess.isEmpty then
    if !negative then some (.integer significand)
    else if 0 < significand && Number.leastInteger ≤ -(significand : Int) then
      some (.integer (-significand))
    else some (.real ⟨true, Binary64.rankOfRatio significand 1⟩)
  else
    let (digits, dropped) := accumulate significand frac
    let places := frac.length - dropped.length
    (Binary64.scaled? digits (exponent.getD 0 + excess.length - places)).map fun rank =>
      .real ⟨negative, rank⟩

/-- Reads a number: no leading zero before another digit, digits after a point and a mark. -/
def number? (s : List Char) : Option (Number × List Char) := do
  let (negative, s) := match s with
    | '-' :: rest => (true, rest)
    | _ => (false, s)
  let whole := s.takeWhile Char.isDigit
  let s := s.dropWhile Char.isDigit
  if whole.isEmpty || (1 < whole.length && whole.head? == some '0') then none
  else
    let (frac, s) ← fraction? s
    let (exponent, s) ← exponent? s
    let n ← numberOfParts? negative whole frac exponent
    return (n, s)

/-- Reads one token off the front of a text that starts with neither blank nor end. -/
def token? (c : Char) (rest : List Char) : Option (Token × List Char) :=
  match c with
  | '[' => some (.openArray, rest)
  | ']' => some (.closeArray, rest)
  | '\x7b' => some (.openObject, rest)
  | '\x7d' => some (.closeObject, rest)
  | ',' => some (.comma, rest)
  | ':' => some (.colon, rest)
  | '"' => do
    let (ps, rest) ← pieces? rest
    let cs ← joinPieces? ps
    return (.scalar (.string (String.ofList cs)), rest)
  | _ =>
    match c :: rest with
    | 't' :: 'r' :: 'u' :: 'e' :: rest => some (.scalar (.bool true), rest)
    | 'f' :: 'a' :: 'l' :: 's' :: 'e' :: rest => some (.scalar (.bool false), rest)
    | 'n' :: 'u' :: 'l' :: 'l' :: rest => some (.scalar .null, rest)
    | s => (number? s).map fun (n, rest) => (.scalar (.number n), rest)

/-- The blanks of JSON text. -/
def isBlank (c : Char) : Bool :=
  c == ' ' || c == '\n' || c == '\t' || c == '\r'

/-- The tokens of a text, reading at most `fuel` characters and tokens. -/
def lexWith? : Nat → List Char → Option (List Token)
  | _, [] => some []
  | 0, _ :: _ => none
  | fuel + 1, c :: rest =>
    if isBlank c then lexWith? fuel rest
    else do
      let (t, rest) ← token? c rest
      let ts ← lexWith? fuel rest
      return t :: ts

/-- The tokens of a text; each step consumes a character, so the length is fuel enough. -/
def lex? (s : List Char) : Option (List Token) :=
  lexWith? s.length s

end DefectCatalog.Json
