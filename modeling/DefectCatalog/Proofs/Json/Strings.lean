import DefectCatalog.Json.Token
import DefectCatalog.Json.Writer
import Mathlib.Tactic.IntervalCases

/-!
# String literals read back

Every character is written as one piece of a literal (`piece`): as itself, by a
letter, or as a unit in hexadecimal.  No unit is a surrogate, so the pieces are
the characters again.
-/

namespace DefectCatalog.Json

/-- The piece that a character is written as. -/
def piece (c : Char) : Piece :=
  if c.toNat < 32 ∧ c ≠ '\x08' ∧ c ≠ '\x0c' ∧ c ≠ '\n' ∧ c ≠ '\r' ∧ c ≠ '\t' then .unit c.toNat
  else .char c

/-- A hexadecimal digit is read back. -/
theorem hexDigit?_hexChar {n : Nat} (h : n < 16) : hexDigit? (hexChar n) = some n := by
  interval_cases n <;> rfl

/-- The four digits of a control character are read back. -/
theorem hexUnit?_hexChar {n : Nat} (h : n < 32) :
    hexUnit? '0' '0' (hexChar (n / 16)) (hexChar (n % 16)) = some n := by
  have hhigh := hexDigit?_hexChar (n := n / 16) (by omega)
  have hlow := hexDigit?_hexChar (n := n % 16) (by omega)
  have hzero : hexDigit? '0' = some 0 := rfl
  rw [hexUnit?, hzero, hhigh, hlow]
  simp only [Option.bind_eq_bind, Option.bind_some, Option.pure_def]
  congr 1
  omega

/-! ## One character -/

/-- One more piece in front of those that are read. -/
def withPiece (p : Piece) (read : Option (List Piece × List Char)) :
    Option (List Piece × List Char) :=
  read.map fun r => (p :: r.1, r.2)

/-- A character that needs no escape is read as itself. -/
theorem pieces?_plain {c : Char} (hquote : c ≠ '"') (hbackslash : c ≠ '\\') (hc : 32 ≤ c.toNat)
    (rest : List Char) : pieces? (c :: rest) = withPiece (.char c) (pieces? rest) := by
  rw [pieces?.eq_def]
  split
  · next heq => cases heq
  · next heq => exact absurd (List.cons.inj heq).1 hquote
  · next heq => exact absurd (List.cons.inj heq).1 hbackslash
  · next heq => exact absurd (List.cons.inj heq).1 hbackslash
  · next heq =>
      obtain ⟨rfl, rfl⟩ := List.cons.inj heq
      rw [if_neg (by omega)]
      cases pieces? rest <;> rfl

/-- An escape of one letter is read as its character. -/
theorem pieces?_letter {l c : Char} (hl : l ≠ 'u') (hc : escaped? l = some c) (rest : List Char) :
    pieces? ('\\' :: l :: rest) = withPiece (.char c) (pieces? rest) := by
  rw [pieces?.eq_def]
  split
  · next heq => cases heq
  · next heq => cases heq
  · next heq => exact absurd (List.cons.inj (List.cons.inj heq).2).1 hl
  · next heq =>
      obtain ⟨-, heq⟩ := List.cons.inj heq
      obtain ⟨rfl, rfl⟩ := List.cons.inj heq
      rw [hc]
      cases pieces? rest <;> rfl
  · next hother heq =>
      obtain ⟨rfl, rfl⟩ := List.cons.inj heq
      exact (hother l rest rfl rfl).elim

/-- An escape of four digits is read as its unit. -/
theorem pieces?_unit {a b c d : Char} {u : Nat} (hu : hexUnit? a b c d = some u)
    (rest : List Char) :
    pieces? ('\\' :: 'u' :: a :: b :: c :: d :: rest) = withPiece (.unit u) (pieces? rest) := by
  rw [pieces?, hu]
  cases pieces? rest <;> rfl

/-- **A character is read back as its piece.** -/
theorem pieces?_escapeChar (c : Char) (rest : List Char) :
    pieces? (escapeChar c ++ rest) = withPiece (piece c) (pieces? rest) := by
  unfold escapeChar
  split
  iterate 7
    · exact pieces?_letter (by decide) rfl rest
  · next hquote hbackslash hb hf hn hr ht =>
      split
      · next hcontrol =>
          have hpiece : piece c = .unit c.toNat := if_pos ⟨hcontrol, hb, hf, hn, hr, ht⟩
          rw [hpiece]
          exact pieces?_unit (hexUnit?_hexChar hcontrol) rest
      · next hplain =>
          have hpiece : piece c = .char c := if_neg fun h => hplain h.1
          rw [hpiece]
          exact pieces?_plain hquote hbackslash (Nat.le_of_not_lt hplain) rest

/-! ## A literal -/

/-- Escaped characters are read up to the closing quote. -/
theorem pieces?_flatMap_escapeChar (cs rest : List Char) :
    pieces? (cs.flatMap escapeChar ++ '"' :: rest) = some (cs.map piece, rest) := by
  induction cs with
  | nil => rfl
  | cons c cs ih =>
      rw [List.flatMap_cons, List.append_assoc, pieces?_escapeChar, ih]
      rfl

/-- A unit below the surrogates is a character by itself. -/
theorem joinPieces?_unit {u : Nat} (hu : u < 0xD800) (rest : List Piece) :
    joinPieces? (.unit u :: rest) = (joinPieces? rest).map (Char.ofNat u :: ·) := by
  have hlow : (decide (u < 0xD800) || decide (0xDFFF < u)) = true := by simp [hu]
  rw [joinPieces?.eq_def]
  exact if_pos hlow

/-- The pieces of characters are joined to these characters. -/
theorem joinPieces?_map_piece (cs : List Char) : joinPieces? (cs.map piece) = some cs := by
  induction cs with
  | nil => rfl
  | cons c cs ih =>
      rw [List.map_cons, piece]
      split
      · rw [joinPieces?_unit (by omega), ih, Char.ofNat_toNat]
        rfl
      · rw [joinPieces?, ih]
        rfl

/-- A quoted text is its escaped characters between quotes. -/
theorem toList_quote (s : String) :
    (quote s).toList = '"' :: (s.toList.flatMap escapeChar ++ ['"']) := by
  simp [quote]

/-- **A string is read back from its literal.** -/
theorem token?_literal (s : String) (rest : List Char) :
    token? '"' (s.toList.flatMap escapeChar ++ '"' :: rest) = some (.scalar (.string s), rest) := by
  simp [token?, pieces?_flatMap_escapeChar, joinPieces?_map_piece]

end DefectCatalog.Json
