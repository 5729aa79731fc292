/-!
# Positions in a ring

Stepping round a list in a circle: the first position follows the last.
-/

namespace DefectCatalog.Ring

/-- The position after `i`, the first one following the last. -/
def next? (i len : Nat) : Option Nat :=
  if len = 0 then none else some ((i + 1) % len)

/-- The position before `i`, the last one preceding the first. -/
def previous? (i len : Nat) : Option Nat :=
  if len = 0 then none else some ((i % len + len - 1) % len)

end DefectCatalog.Ring
