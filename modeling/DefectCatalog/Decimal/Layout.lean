import DefectCatalog.Decimal.Shortest

/-!
# Decimal layouts

A `Layout` says how the shortest digits of a binary64 number are laid out as
text: which decimal exponents are written positionally, and which with an
exponent mark.  An integral number always keeps one zero after the point.
`twoPlaces` is the other format: two digits after the point, rounded from the
exact value with ties to even.
-/

namespace DefectCatalog

/-- How shortest digits become text: exponents in `[lowest, highest)` are positional. -/
structure Layout where
  lowest : Int
  highest : Int
deriving DecidableEq, Repr

namespace Layout

/-- The digits of `n` in base ten. -/
def digits (n : Nat) : String :=
  String.ofList (Nat.toDigits 10 n)

/-- A string of `n` zeros. -/
def zeros (n : Nat) : String :=
  String.ofList (List.replicate n '0')

/-- Digits with a decimal point, at least one digit on either side of it. -/
def positional (s : Scientific) : String :=
  let ds := Nat.toDigits 10 s.digits
  if 0 ≤ s.exponent then digits s.digits ++ zeros s.exponent.natAbs ++ ".0"
  else
    let places := s.exponent.natAbs
    if places < ds.length then
      String.ofList (ds.take (ds.length - places)) ++ "." ++
        String.ofList (ds.drop (ds.length - places))
    else "0." ++ zeros (places - ds.length) ++ String.ofList ds

/-- One digit, the other digits after a point, and a signed exponent. -/
def marked (s : Scientific) : String :=
  let ds := Nat.toDigits 10 s.digits
  let exponent : Int := s.exponent + ds.length - 1
  let lead := String.ofList (ds.take 1)
  let rest := if ds.length ≤ 1 then "" else "." ++ String.ofList (ds.drop 1)
  lead ++ rest ++ "e" ++ (if exponent < 0 then "-" else "+") ++ digits exponent.natAbs

/-- The text of `x` in a layout. -/
def write (layout : Layout) (x : Binary64) : String :=
  let s := Binary64.shortest x.rank
  let exponent : Int := s.exponent + (Nat.toDigits 10 s.digits).length - 1
  let body :=
    if layout.lowest ≤ exponent && exponent < layout.highest then positional s else marked s
  (if x.negative then "-" else "") ++ body

end Layout

/-- The exact value of `x` rounded to two places, ties to even; a minus sign is kept at zero. -/
def Binary64.twoPlaces (x : Binary64) : String :=
  let hundredths := roundHalfEven (x.magnitude * 100) unitsPerOne
  let cents := Nat.toDigits 10 (hundredths % 100)
  (if x.negative then "-" else "") ++ Layout.digits (hundredths / 100) ++ "." ++
    Layout.zeros (2 - cents.length) ++ String.ofList cents

end DefectCatalog
