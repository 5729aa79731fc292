import DefectCatalog.Json.Writer
import DefectCatalog.Proofs.Json.Numbers
import DefectCatalog.Proofs.Text.Lacks

/-!
# JSON text holds no control characters

A string literal writes them as escapes, and nothing else of a text without blanks is one,
so a value is written without them, whatever its strings hold (`Value.lacks_compact`).
-/

namespace DefectCatalog.Json

open Text (Lacks IsAsciiControl)

variable {k : Char}

/-! ## Numbers -/

/-- A fraction is printed. -/
theorem Numeral.le_of_mem_fracText {frac : List Char} (h : ∀ c ∈ frac, c.isDigit = true) :
    ∀ c ∈ fracText frac, 0x20 ≤ c.toNat := by
  cases frac with
  | nil => simp [fracText]
  | cons d ds =>
      intro c hc
      rcases List.mem_cons.mp hc with rfl | hc
      · decide
      · exact Text.le_of_isDigit (h c hc)

/-- An exponent is printed. -/
theorem Numeral.le_of_mem_exponentText (e : Option Int) :
    ∀ c ∈ exponentText e, 0x20 ≤ c.toNat := by
  cases e with
  | none => simp [exponentText]
  | some e =>
      intro c hc
      rw [exponentText, List.mem_cons, List.mem_cons] at hc
      rcases hc with rfl | rfl | hc
      · decide
      · split <;> decide
      · exact Text.le_of_isDigit (isDigit_toDigits _ c hc)

/-- A numeral is printed. -/
theorem Numeral.le_of_mem_text (n : Numeral) : ∀ c ∈ n.text, 0x20 ≤ c.toNat := by
  intro c hc
  rw [text, body, List.mem_append, List.mem_append, List.mem_append] at hc
  rcases hc with hsign | hwhole | hfrac | hexponent
  · split at hsign
    · rw [List.mem_singleton.mp hsign]
      decide
    · cases hsign
  · exact Text.le_of_isDigit (n.whole_digits c hwhole)
  · exact le_of_mem_fracText n.frac_digits c hfrac
  · exact le_of_mem_exponentText n.exponent c hexponent

/-- A number has no control character. -/
theorem Number.lacks_text (hk : IsAsciiControl k) (n : Number) : Lacks k n.text := by
  obtain ⟨m, hm⟩ := exists_numeral_text n
  exact hk.lacks (Text.isPrinted_iff.mpr (hm ▸ m.le_of_mem_text))

/-! ## Strings and values -/

/-- Hexadecimal digits are printed. -/
theorem le_hexChar {n : Nat} (h : n < 16) : 0x20 ≤ (hexChar n).toNat := by
  have hall : ∀ n < 16, 0x20 ≤ (hexChar n).toNat := by decide
  exact hall n h

/-- A control character is written by others. -/
theorem le_of_mem_escapeChar (c : Char) : ∀ d ∈ escapeChar c, 0x20 ≤ d.toNat := by
  unfold escapeChar
  split
  iterate 7 simp
  split
  · next hc =>
      simp only [List.forall_mem_cons]
      refine ⟨by decide, by decide, by decide, by decide, le_hexChar (by omega),
        le_hexChar (by omega), by simp⟩
  · next hc => simpa using hc

/-- A quoted text has no control character, as those of the text are escaped. -/
theorem lacks_quote (hk : IsAsciiControl k) (s : String) : Lacks k (quote s) := by
  have hmark : Lacks k "\"" := hk.lacks (by decide)
  have hchars : Lacks k (String.ofList (s.toList.flatMap escapeChar)) := by
    refine hk.lacks (Text.isPrinted_iff.mpr fun d hd => ?_)
    rw [String.toList_ofList, List.mem_flatMap] at hd
    obtain ⟨c, -, hd⟩ := hd
    exact le_of_mem_escapeChar c d hd
  simp [quote, hmark, hchars]

mutual

/-- **A value is written without control characters.** -/
theorem Value.lacks_compact (hk : IsAsciiControl k) (v : Value) : Lacks k v.compact :=
  match v with
  | .null => hk.lacks (by decide)
  | .bool true => hk.lacks (by decide)
  | .bool false => hk.lacks (by decide)
  | .number n => n.lacks_text hk
  | .string s => lacks_quote hk s
  | .array items => by
      have hopen : Lacks k "[" := hk.lacks (by decide)
      have hclose : Lacks k "]" := hk.lacks (by decide)
      have hitems := lacks_compactItems hk items
      simp [Value.compact, hopen, hclose, hitems]
  | .object members => by
      have hopen : Lacks k "\x7b" := hk.lacks (by decide)
      have hclose : Lacks k "\x7d" := hk.lacks (by decide)
      have hmembers := lacks_compactMembers hk members
      simp [Value.compact, hopen, hclose, hmembers]

theorem lacks_compactItems (hk : IsAsciiControl k) (items : List Value) :
    Lacks k (compactItems items) :=
  match items with
  | [] => hk.lacks (by decide)
  | [v] => v.lacks_compact hk
  | v :: w :: rest => by
      have hcomma : Lacks k "," := hk.lacks (by decide)
      have hv := v.lacks_compact hk
      have hrest := lacks_compactItems hk (w :: rest)
      simp [compactItems, hcomma, hv, hrest]

theorem lacks_compactMembers (hk : IsAsciiControl k) (members : List (String × Value)) :
    Lacks k (compactMembers members) :=
  match members with
  | [] => hk.lacks (by decide)
  | [(key, v)] => by
      have hcolon : Lacks k ":" := hk.lacks (by decide)
      have hkey := lacks_quote hk key
      have hv := v.lacks_compact hk
      simp [compactMembers, hcolon, hkey, hv]
  | (key, v) :: m :: rest => by
      have hcolon : Lacks k ":" := hk.lacks (by decide)
      have hcomma : Lacks k "," := hk.lacks (by decide)
      have hkey := lacks_quote hk key
      have hv := v.lacks_compact hk
      have hrest := lacks_compactMembers hk (m :: rest)
      simp [compactMembers, hcolon, hcomma, hkey, hv, hrest]

end

end DefectCatalog.Json
