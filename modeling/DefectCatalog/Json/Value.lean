import DefectCatalog.Decimal.Layout
import DefectCatalog.OrderedMap

/-!
# JSON values

Numbers keep the distinction of the text they came from: an integer of at most
64 bits stays an integer, everything else is a binary64 number.  Objects are
lists of members in document order.  Member lists that come from a text have
distinct keys, because the reader adds each with `Keyed.put`; a list built for
writing may name a key twice.
-/

namespace DefectCatalog.Json

/-- A JSON number: a 64-bit integer, signed or unsigned, or a binary64 number. -/
inductive Number where
  | integer (n : Int)
  | real (x : Binary64)
deriving DecidableEq, Repr

/-- A JSON value; the members of an object are in document order. -/
inductive Value where
  | null
  | bool (b : Bool)
  | number (n : Number)
  | string (s : String)
  | array (items : List Value)
  | object (members : List (String × Value))
deriving Repr, Inhabited

namespace Number

/-- The least integer that stays an integer. -/
def leastInteger : Int := -9223372036854775808

/-- The greatest integer that stays an integer. -/
def greatestInteger : Int := 18446744073709551615

/-- Shortest digits, positional for decimal exponents from -5 to 15. -/
def layout : Layout := ⟨-5, 16⟩

/-- The number as JSON text. -/
def text : Number → String
  | integer n => toString n
  | real x => layout.write x

/-- The binary64 number nearest to the value. -/
def toBinary64 : Number → Binary64
  | integer n => Binary64.ofInt n
  | real x => x

end Number

end DefectCatalog.Json
