/-!
# Natural numbers of 64 bits

Reading a number that has to fit into 64 bits.
-/

namespace DefectCatalog.Decimal

/-- The greatest natural number of 64 bits. -/
def wordLimit : Nat := 18446744073709551615

/-- Reads a natural number of at most 64 bits: digits after an optional plus sign. -/
def word? (s : List Char) : Option Nat :=
  let ds := match s with
    | '+' :: rest => rest
    | _ => s
  if ds.isEmpty || !ds.all Char.isDigit then none
  else
    let n := ds.foldl (fun n c => 10 * n + (c.toNat - 48)) 0
    if n ≤ wordLimit then some n else none

end DefectCatalog.Decimal
