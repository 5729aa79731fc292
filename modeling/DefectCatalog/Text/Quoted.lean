import DefectCatalog.Text.PrintTable
import DefectCatalog.Text.WidthTable

/-!
# Quoted text

Messages show a value between double quotes.  The quote, the backslash and the
common control characters have an escape of two characters; every other
character without a printed form is written as its code point in braces.
-/

namespace DefectCatalog.Text

/-- The digits of a code point in base sixteen. -/
def hexDigits (n : Nat) : List Char :=
  Nat.toDigits 16 n

/-- A character inside quoted text. -/
def quoteChar (c : Char) : List Char :=
  match c with
  | '\x00' => ['\\', '0']
  | '\t' => ['\\', 't']
  | '\r' => ['\\', 'r']
  | '\n' => ['\\', 'n']
  | '\\' => ['\\', '\\']
  | '"' => ['\\', '"']
  | _ =>
    if inRanges unprintableRanges c.toNat then
      ['\\', 'u', '\x7b'] ++ hexDigits c.toNat ++ ['\x7d']
    else [c]

/-- The text between double quotes. -/
def quoted (s : String) : String :=
  "\"" ++ String.ofList (s.toList.flatMap quoteChar) ++ "\""

end DefectCatalog.Text
