import DefectCatalog.Proofs.Json.Significand

/-!
# Numbers read back

The text of a number has parts: a sign, digits, further digits after a point and
an exponent after a mark (`Numeral`).  They are read off the text one after the
other, each up to the first character that does not belong to it, so the text
has to end before a character that could go on (`Ends`).

A binary64 number is written as a numeral that rounds to it, whatever the layout
(`exists_numeral_write`).  Its text is always read as a number (`number?_text`),
but reading rounds more than once, so it can be another one, the number's
`Number.reread`.  Integers come back (`Number.reread_integer`), and so do numbers
with few digits behind the point (`Number.reread_of_short`).
-/

namespace DefectCatalog

/-- The digits of a number above zero start with none that says nothing. -/
theorem head?_toDigits {n : Nat} (hn : 0 < n) : (Nat.toDigits 10 n).head? ≠ some '0' := by
  induction n using Nat.strongRecOn with
  | ind n ih =>
      rw [Nat.toDigits_eq_if (by decide)]
      split
      · intro h
        have hzero := Nat.digitChar_eq_zero.mp (Option.some.inj h)
        omega
      · have hhead := ih (n / 10) (by omega) (by omega)
        obtain ⟨d, ds, hds⟩ := List.exists_cons_of_ne_nil
          (Nat.toDigits_ne_nil (b := 10) (n := n / 10))
        rw [hds] at hhead ⊢
        exact hhead

namespace Json

/-- The text before the end of a number does not go on as a number. -/
def Ends (rest : List Char) : Prop :=
  ∀ c ∈ rest.head?, c.isDigit = false ∧ c ≠ '.' ∧ c ≠ 'e' ∧ c ≠ 'E'

/-- At the end of a text a number ends. -/
theorem ends_nil : Ends [] := fun _ hc => by cases hc

/-- The parts of a number as JSON writes it. -/
structure Numeral where
  negative : Bool
  whole : List Char
  frac : List Char
  exponent : Option Int
  whole_digits : ∀ c ∈ whole, c.isDigit = true
  whole_ne_nil : whole ≠ []
  /-- A zero stands before the point only alone. -/
  whole_head : 1 < whole.length → whole.head? ≠ some '0'
  frac_digits : ∀ c ∈ frac, c.isDigit = true

namespace Numeral

/-- Digits after a point, if there are any. -/
def fracText : List Char → List Char
  | [] => []
  | d :: ds => '.' :: d :: ds

/-- A signed exponent after its mark, if there is one. -/
def exponentText : Option Int → List Char
  | none => []
  | some e => 'e' :: (if e < 0 then '-' else '+') :: Nat.toDigits 10 e.natAbs

/-- The text of a numeral without its sign. -/
def body (n : Numeral) : List Char :=
  n.whole ++ (fracText n.frac ++ exponentText n.exponent)

/-- The text of a numeral. -/
def text (n : Numeral) : List Char :=
  (if n.negative then ['-'] else []) ++ n.body

/-- The magnitude of a numeral. -/
def value (n : Numeral) : Scientific :=
  ⟨digitsValue (n.whole ++ n.frac), n.exponent.getD 0 - n.frac.length⟩

end Numeral

/-- A numeral starts with a digit or a minus sign. -/
theorem Numeral.exists_text_eq_cons (n : Numeral) :
    ∃ c s, n.text = c :: s ∧ (c.isDigit = true ∨ c = '-') := by
  obtain ⟨d, ds, hds⟩ := List.exists_cons_of_ne_nil n.whole_ne_nil
  have hd := n.whole_digits d (hds ▸ List.mem_cons_self)
  rw [text, body, hds]
  cases n.negative with
  | true => exact ⟨'-', _, rfl, Or.inr rfl⟩
  | false => exact ⟨d, _, rfl, Or.inl hd⟩

/-! ## Reading the parts -/

/-- Characters of a kind are read up to the first that is not of the kind. -/
theorem span_append {p : Char → Bool} {ds rest : List Char} (hds : ∀ c ∈ ds, p c = true)
    (hrest : ∀ c ∈ rest.head?, p c = false) :
    (ds ++ rest).takeWhile p = ds ∧ (ds ++ rest).dropWhile p = rest := by
  rw [List.takeWhile_append_of_pos hds, List.dropWhile_append_of_pos hds]
  cases rest with
  | nil => exact ⟨List.append_nil ds, rfl⟩
  | cons c rest =>
      have hc := hrest c rfl
      simp [hc]

/-- The fraction of a numeral is read, with other text behind it. -/
theorem fraction?_append {frac rest : List Char} (hfrac : ∀ c ∈ frac, c.isDigit = true)
    (hrest : ∀ c ∈ rest.head?, c.isDigit = false ∧ c ≠ '.') :
    fraction? (Numeral.fracText frac ++ rest) = some (frac, rest) := by
  cases frac with
  | nil =>
      cases rest with
      | nil => rfl
      | cons c rest =>
          have hc := (hrest c rfl).2
          unfold fraction?
          split
          · next heq =>
              obtain ⟨rfl, -⟩ := List.cons.inj heq
              exact absurd rfl hc
          · rfl
  | cons d ds =>
      obtain ⟨htake, hdrop⟩ := span_append hfrac fun c hc => (hrest c hc).1
      rw [Numeral.fracText, List.cons_append, fraction?, htake, hdrop]
      rfl

/-- A sign and a magnitude make the integer they come from. -/
theorem signed_natAbs (n : Int) :
    (if decide (n < 0) then -(n.natAbs : Int) else n.natAbs) = n := by
  split
  · next h =>
      have hneg := of_decide_eq_true h
      omega
  · next h =>
      have hnonneg := mt decide_eq_true h
      omega

/-- The exponent of a numeral is read, with other text behind it. -/
theorem exponent?_append (exponent : Option Int) {rest : List Char} (hrest : Ends rest) :
    exponent? (Numeral.exponentText exponent ++ rest) = some (exponent, rest) := by
  cases exponent with
  | none =>
      cases rest with
      | nil => rfl
      | cons c rest =>
          have hc := hrest c rfl
          exact if_neg (by rintro (h | h) <;> simp [h] at hc)
  | some e =>
      obtain ⟨htake, hdrop⟩ := span_append
        (fun c hc =>
          Nat.isDigit_of_mem_toDigits (b := 10) (n := e.natAbs) (by decide) (by decide) hc)
        fun c hc => (hrest c hc).1
      have hvalue : digitsValue (Nat.toDigits 10 e.natAbs) = e.natAbs :=
        Nat.ofDigitChars_ten_toDigits
      have hne : (Nat.toDigits 10 e.natAbs).isEmpty = false := by
        rw [List.isEmpty_eq_false_iff]
        exact Nat.toDigits_ne_nil
      have hsign : sign ((if e < 0 then '-' else '+') :: (Nat.toDigits 10 e.natAbs ++ rest)) =
          (decide (e < 0), Nat.toDigits 10 e.natAbs ++ rest) := by
        by_cases he : e < 0 <;> simp [he, sign]
      rw [Numeral.exponentText, List.cons_append, List.cons_append, exponent?,
        if_pos (Or.inl rfl), hsign]
      dsimp only
      rw [htake, hdrop, hne, hvalue, signed_natAbs]
      rfl

/-- Before an exponent the digits of a numeral end. -/
theorem Ends.of_exponentText {e : Option Int} {rest : List Char} (hrest : Ends rest) :
    ∀ c ∈ (Numeral.exponentText e ++ rest).head?, c.isDigit = false ∧ c ≠ '.' := by
  cases e with
  | none => exact fun c hc => ⟨(hrest c hc).1, (hrest c hc).2.1⟩
  | some e =>
      intro c hc
      obtain rfl := Option.some.inj hc
      decide

/-- Before a fraction the digits of the integer part end. -/
theorem Ends.of_fracText {f tail : List Char}
    (htail : ∀ c ∈ tail.head?, c.isDigit = false ∧ c ≠ '.') :
    ∀ c ∈ (Numeral.fracText f ++ tail).head?, c.isDigit = false := by
  cases f with
  | nil => exact fun c hc => (htail c hc).1
  | cons d ds =>
      intro c hc
      obtain rfl := Option.some.inj hc
      decide

/-- The sign of a numeral is told by the first character of its text. -/
theorem Numeral.sign_eq (n : Numeral) {rest s : List Char} {negative : Bool}
    (h : (match n.text ++ rest with
      | '-' :: rest => (true, rest)
      | _ => (false, n.text ++ rest)) = (negative, s)) :
    negative = n.negative ∧ s = n.body ++ rest := by
  cases hneg : n.negative with
  | true =>
      have htext : n.text ++ rest = '-' :: (n.body ++ rest) := by
        rw [text, hneg]
        rfl
      rw [htext] at h
      obtain ⟨rfl, rfl⟩ := Prod.mk.inj h
      exact ⟨rfl, rfl⟩
  | false =>
      have htext : n.text ++ rest = n.body ++ rest := by
        rw [text, hneg]
        rfl
      rw [htext] at h
      split at h
      · next tail heq =>
          -- a body starts with a digit
          obtain ⟨d, ds, hds⟩ := List.exists_cons_of_ne_nil n.whole_ne_nil
          have hd := n.whole_digits d (hds ▸ List.mem_cons_self)
          rw [body, hds] at heq
          obtain rfl := (List.cons.inj heq).1
          cases hd
      · obtain ⟨rfl, rfl⟩ := Prod.mk.inj h
        exact ⟨rfl, rfl⟩

/-- **The parts of a numeral are read off its text.** -/
theorem number?_append (n : Numeral) {rest : List Char} (hrest : Ends rest) :
    number? (n.text ++ rest) =
      (numberOfParts? n.negative n.whole n.frac n.exponent).map fun x => (x, rest) := by
  have htail := hrest.of_exponentText (e := n.exponent)
  obtain ⟨htake, hdrop⟩ := span_append n.whole_digits (Ends.of_fracText (f := n.frac) htail)
  have hwhole : (n.whole.isEmpty || (1 < n.whole.length && n.whole.head? == some '0')) = false := by
    simpa using ⟨n.whole_ne_nil, n.whole_head⟩
  unfold number?
  split
  next negative s hsplit =>
    obtain ⟨rfl, rfl⟩ := n.sign_eq hsplit
    rw [Numeral.body, List.append_assoc, List.append_assoc]
    dsimp only
    rw [htake, hdrop, hwhole, if_neg Bool.false_ne_true, fraction?_append n.frac_digits htail,
      Option.bind_eq_bind, Option.bind_some]
    dsimp only
    rw [exponent?_append _ hrest, Option.bind_eq_bind, Option.bind_some]
    cases numberOfParts? n.negative n.whole n.frac n.exponent <;> rfl

/-! ## Writing the parts -/

/-- A fraction that is there is written behind a point. -/
theorem Numeral.fracText_of_ne_nil {frac : List Char} (h : frac ≠ []) :
    fracText frac = '.' :: frac := by
  cases frac with
  | nil => exact absurd rfl h
  | cons d ds => rfl

/-- The decimal digits of a number are digits. -/
theorem isDigit_toDigits (n : Nat) : ∀ c ∈ Nat.toDigits 10 n, c.isDigit = true :=
  fun _ hc => Nat.isDigit_of_mem_toDigits (by decide) (by decide) hc

theorem isDigit_zeros (n : Nat) : ∀ c ∈ List.replicate n '0', c.isDigit = true := by
  intro c hc
  obtain rfl := List.eq_of_mem_replicate hc
  rfl

/-- The value of the decimal digits of a number is that number. -/
theorem digitsValue_toDigits (n : Nat) : digitsValue (Nat.toDigits 10 n) = n :=
  Nat.ofDigitChars_ten_toDigits

/-- Zeros behind the digits multiply their value by powers of ten. -/
theorem digitsValue_append_zeros (ds : List Char) (n : Nat) :
    digitsValue (ds ++ List.replicate n '0') = digitsValue ds * 10 ^ n := by
  have h := Nat.ofDigitChars_append (b := 10) (l := ds) (m := List.replicate n '0') 0
  rw [Nat.ofDigitChars_replicate_zero, Nat.mul_comm] at h
  exact h

/-- Zeros in front of the digits do not count. -/
theorem digitsValue_zeros_append (ds : List Char) (n : Nat) :
    digitsValue (List.replicate n '0' ++ ds) = digitsValue ds := by
  have h := Nat.ofDigitChars_append (b := 10) (l := List.replicate n '0') (m := ds) 0
  rw [Nat.ofDigitChars_replicate_zero, Nat.mul_zero] at h
  exact h

theorem isDigit_append {xs ys : List Char} (hxs : ∀ c ∈ xs, c.isDigit = true)
    (hys : ∀ c ∈ ys, c.isDigit = true) : ∀ c ∈ xs ++ ys, c.isDigit = true :=
  List.forall_mem_append.mpr ⟨hxs, hys⟩

namespace Numeral

/-- An integer that ends in zeros, with one place behind the point. -/
def integral (negative : Bool) (digits zeros : Nat) (h : 0 < digits ∨ zeros = 0) : Numeral where
  negative
  whole := Nat.toDigits 10 digits ++ List.replicate zeros '0'
  frac := ['0']
  exponent := none
  whole_digits := isDigit_append (isDigit_toDigits digits) (isDigit_zeros zeros)
  whole_ne_nil := List.append_ne_nil_of_left_ne_nil Nat.toDigits_ne_nil _
  whole_head := by
    intro hlength
    rcases Nat.eq_zero_or_pos digits with rfl | hpos
    · rw [h.resolve_left (by decide)] at hlength
      exact absurd hlength (by decide)
    · have hhead := head?_toDigits hpos
      obtain ⟨d, ds, hds⟩ :=
        List.exists_cons_of_ne_nil (Nat.toDigits_ne_nil (b := 10) (n := digits))
      rw [hds] at hhead ⊢
      exact hhead
  frac_digits := isDigit_zeros 1

/-- Digits with a point among them. -/
def pointed (negative : Bool) (digits before : Nat) (exponent : Option Int) (hbefore : 0 < before)
    (h : 0 < digits ∨ before = 1) : Numeral where
  negative
  whole := (Nat.toDigits 10 digits).take before
  frac := (Nat.toDigits 10 digits).drop before
  exponent
  whole_digits := fun c hc => isDigit_toDigits digits c (List.mem_of_mem_take hc)
  whole_ne_nil := by
    rw [Ne, List.take_eq_nil_iff, not_or]
    exact ⟨Nat.ne_of_gt hbefore, Nat.toDigits_ne_nil⟩
  whole_head := by
    intro hlength
    have hpos : 0 < digits := by
      refine h.resolve_right fun hone => ?_
      rw [hone, List.length_take] at hlength
      omega
    rw [List.head?_take, if_neg (Nat.ne_of_gt hbefore)]
    exact head?_toDigits hpos
  frac_digits := fun c hc => isDigit_toDigits digits c (List.mem_of_mem_drop hc)

/-- Digits behind the point, after zeros. -/
def fractional (negative : Bool) (digits zeros : Nat) : Numeral where
  negative
  whole := ['0']
  frac := List.replicate zeros '0' ++ Nat.toDigits 10 digits
  exponent := none
  whole_digits := isDigit_zeros 1
  whole_ne_nil := List.cons_ne_nil _ _
  whole_head := fun hlength => absurd hlength (by decide)
  frac_digits := isDigit_append (isDigit_zeros zeros) (isDigit_toDigits digits)

/-- The digits of an integer. -/
def ofInt (n : Int) : Numeral where
  negative := n < 0
  whole := Nat.toDigits 10 n.natAbs
  frac := []
  exponent := none
  whole_digits := isDigit_toDigits n.natAbs
  whole_ne_nil := Nat.toDigits_ne_nil
  whole_head := by
    intro hlength
    rcases Nat.eq_zero_or_pos n.natAbs with hzero | hpos
    · rw [hzero] at hlength
      exact absurd hlength (by decide)
    · exact head?_toDigits hpos
  frac_digits := List.forall_mem_nil _

/-- The numeral of an integer is its decimal text. -/
theorem text_ofInt (n : Int) : (ofInt n).text = (toString n).toList := by
  cases n with
  | ofNat n => simp [text, body, ofInt, fracText, exponentText, toString, Int.repr, Nat.repr]
  | negSucc n => simp [text, body, ofInt, fracText, exponentText, toString, Int.repr, Nat.repr]

/-- An integral numeral stands for its digits with the zeros behind them. -/
theorem value_integral (negative : Bool) (digits zeros : Nat) (h : 0 < digits ∨ zeros = 0) :
    (integral negative digits zeros h).value = ⟨digits * 10 ^ (zeros + 1), -1⟩ := by
  have hwhole : Nat.toDigits 10 digits ++ List.replicate zeros '0' ++ ['0'] =
      Nat.toDigits 10 digits ++ List.replicate (zeros + 1) '0' := by
    rw [List.append_assoc, List.replicate_succ']
  rw [value, integral]
  dsimp only
  rw [hwhole, digitsValue_append_zeros, digitsValue_toDigits]
  rfl

/-- The point of a numeral is counted from the end of its digits. -/
theorem value_pointed (negative : Bool) (digits before : Nat) (exponent : Option Int)
    (hbefore : 0 < before) (h : 0 < digits ∨ before = 1) :
    (pointed negative digits before exponent hbefore h).value =
      ⟨digits, exponent.getD 0 - ((Nat.toDigits 10 digits).length - before : Nat)⟩ := by
  rw [value, pointed]
  dsimp only
  rw [List.take_append_drop, digitsValue_toDigits, List.length_drop]

/-- The zeros behind the point count as places. -/
theorem value_fractional (negative : Bool) (digits zeros : Nat) :
    (fractional negative digits zeros).value =
      ⟨digits, -((zeros + (Nat.toDigits 10 digits).length : Nat) : Int)⟩ := by
  have hwhole : ['0'] ++ (List.replicate zeros '0' ++ Nat.toDigits 10 digits) =
      List.replicate (zeros + 1) '0' ++ Nat.toDigits 10 digits := by
    rw [← List.append_assoc, List.replicate_succ]
    rfl
  rw [value, fractional]
  dsimp only
  rw [hwhole, digitsValue_zeros_append, digitsValue_toDigits, List.length_append,
    List.length_replicate, Option.getD_none, Int.zero_sub]

end Numeral

/-- A numeral that writes a decimal number: with all of its digits behind a point
or before an exponent, or as an integer with one place behind the point. -/
structure Numeral.Writes (n : Numeral) (s : Scientific) : Prop where
  not_integer : n.frac ≠ [] ∨ n.exponent ≠ none
  value : n.value = s ∨
    0 ≤ s.exponent ∧ n.value = ⟨s.digits * 10 ^ (s.exponent.natAbs + 1), -1⟩

variable {s : Scientific}

/-! ## Layouts as numerals -/

/-- Zeros behind the digits write an exponent that is not negative. -/
theorem writes_integral {digits : Nat} {exponent : Int} (negative : Bool) (hexponent : 0 ≤ exponent)
    (hzeros : 0 < digits ∨ exponent.natAbs = 0) :
    (Numeral.integral negative digits exponent.natAbs hzeros).Writes ⟨digits, exponent⟩ :=
  ⟨Or.inl (List.cons_ne_nil _ _), Or.inr ⟨hexponent, Numeral.value_integral ..⟩⟩

/-- A point among the digits stands for an exponent that takes away some of them. -/
theorem exists_numeral_inner {digits : Nat} {exponent : Int} (negative : Bool)
    (hpos : 0 < digits) (hexponent : ¬ 0 ≤ exponent)
    (hplaces : exponent.natAbs < (Nat.toDigits 10 digits).length) :
    ∃ n : Numeral, n.negative = negative ∧
      n.body = (Nat.toDigits 10 digits).take ((Nat.toDigits 10 digits).length - exponent.natAbs) ++
        '.' :: (Nat.toDigits 10 digits).drop
          ((Nat.toDigits 10 digits).length - exponent.natAbs) ∧
      n.Writes ⟨digits, exponent⟩ := by
  have hbefore : 0 < (Nat.toDigits 10 digits).length - exponent.natAbs := by omega
  have hfrac : (Nat.toDigits 10 digits).drop
      ((Nat.toDigits 10 digits).length - exponent.natAbs) ≠ [] := by
    rw [Ne, List.drop_eq_nil_iff]
    omega
  refine ⟨.pointed negative digits _ none hbefore (Or.inl hpos), rfl, ?_, Or.inl hfrac,
    Or.inl ?_⟩
  · simp [Numeral.body, Numeral.pointed, Numeral.fracText_of_ne_nil hfrac, Numeral.exponentText]
  · rw [Numeral.value_pointed, Option.getD_none]
    congr 1
    omega

/-- Zeros behind the point stand for an exponent that takes away more than the digits. -/
theorem exists_numeral_below {digits : Nat} {exponent : Int} (negative : Bool)
    (hexponent : ¬ 0 ≤ exponent)
    (hplaces : ¬ exponent.natAbs < (Nat.toDigits 10 digits).length) :
    ∃ n : Numeral, n.negative = negative ∧
      n.body = '0' :: '.' :: (List.replicate
        (exponent.natAbs - (Nat.toDigits 10 digits).length) '0' ++ Nat.toDigits 10 digits) ∧
      n.Writes ⟨digits, exponent⟩ := by
  have hfrac : List.replicate (exponent.natAbs - (Nat.toDigits 10 digits).length) '0' ++
      Nat.toDigits 10 digits ≠ [] :=
    List.append_ne_nil_of_right_ne_nil _ Nat.toDigits_ne_nil
  refine ⟨.fractional negative digits (exponent.natAbs - (Nat.toDigits 10 digits).length), rfl,
    ?_, Or.inl hfrac, Or.inl ?_⟩
  · simp [Numeral.body, Numeral.fractional, Numeral.fracText_of_ne_nil hfrac,
      Numeral.exponentText]
  · rw [Numeral.value_fractional]
    congr 1
    omega

/-- Writing the places out makes a numeral. -/
theorem exists_numeral_positional (negative : Bool) (hs : 0 < s.digits ∨ s = ⟨0, 0⟩) :
    ∃ n : Numeral, n.negative = negative ∧ n.body = (Layout.positional s).toList ∧ n.Writes s := by
  obtain ⟨digits, exponent⟩ := s
  dsimp only at hs
  unfold Layout.positional
  dsimp only
  split
  · next hexponent =>
      have hzeros : 0 < digits ∨ exponent.natAbs = 0 := hs.imp_right fun h => by cases h; rfl
      refine ⟨_, rfl, ?_, writes_integral negative hexponent hzeros⟩
      simp [Numeral.body, Numeral.integral, Numeral.fracText, Numeral.exponentText, Layout.digits,
        Layout.zeros]
  · next hexponent =>
      have hpos : 0 < digits := hs.resolve_right fun h => hexponent (by cases h; decide)
      split
      · next hplaces =>
          obtain ⟨n, hnegative, hbody, hwrites⟩ :=
            exists_numeral_inner negative hpos hexponent hplaces
          exact ⟨n, hnegative, by simp [hbody], hwrites⟩
      · next hplaces =>
          obtain ⟨n, hnegative, hbody, hwrites⟩ := exists_numeral_below negative hexponent hplaces
          exact ⟨n, hnegative, by simp [hbody, Layout.zeros], hwrites⟩

theorem toList_mark (p : Prop) [Decidable p] :
    (if p then "-" else "+").toList = [if p then '-' else '+'] := by
  split <;> rfl

/-- Writing the exponent makes a numeral. -/
theorem exists_numeral_marked (negative : Bool) :
    ∃ n : Numeral, n.negative = negative ∧ n.body = (Layout.marked s).toList ∧ n.Writes s := by
  have hlength : 0 < (Nat.toDigits 10 s.digits).length := Nat.length_toDigits_pos
  refine ⟨.pointed negative s.digits 1 (some (s.exponent + (Nat.toDigits 10 s.digits).length - 1))
    (by decide) (Or.inr rfl), rfl, ?_, Or.inr (Option.some_ne_none _), Or.inl ?_⟩
  · obtain ⟨d, ds, hds⟩ := List.exists_cons_of_ne_nil
      (Nat.toDigits_ne_nil (b := 10) (n := s.digits))
    unfold Layout.marked
    dsimp only [Numeral.body, Numeral.pointed]
    rw [hds]
    cases ds <;> simp [Numeral.fracText, Numeral.exponentText, Layout.digits, toList_mark]
  · rw [Numeral.value_pointed, Option.getD_some]
    obtain ⟨digits, exponent⟩ := s
    dsimp only at hlength ⊢
    congr 1
    omega

/-- What writes a decimal number rounds to the same rank. -/
theorem Numeral.Writes.rounds {n : Numeral} (h : n.Writes s) {r : Nat}
    (hs : Binary64.Rounds r s.num s.den) : Binary64.Rounds r n.value.num n.value.den := by
  rcases h.value with hvalue | ⟨hexponent, hvalue⟩
  · rw [hvalue]
    exact hs
  · have hten := hs.expand (show 0 < 10 by decide)
    rw [Scientific.num, Scientific.den, if_neg (by omega), if_neg (by omega)] at hten
    rw [hvalue, Scientific.num, Scientific.den]
    have hnum : s.digits * 10 ^ (s.exponent.natAbs + 1) * 1 =
        s.digits * Nat.pow 10 s.exponent.natAbs * 10 := by
      rw [Nat.pow_succ, Nat.pow_eq]
      ring
    exact hnum ▸ hten

/-- Without digits there is only zero. -/
theorem shortest_digits (r : Nat) :
    0 < (Binary64.shortest r).digits ∨ Binary64.shortest r = ⟨0, 0⟩ := by
  refine (Nat.eq_zero_or_pos (Binary64.shortest r).digits).symm.imp_right fun hzero => ?_
  have hrounds := Binary64.rounds_shortest r
  rw [Scientific.num_eq_zero hzero] at hrounds
  have hr : r = 0 := hrounds.eq_zero (Binary64.shortest r).den_pos
  rw [hr, Binary64.shortest, if_pos rfl]

/-- A sign in front, either way of writing makes a numeral. -/
theorem exists_numeral_signed (negative positional : Bool) (hs : 0 < s.digits ∨ s = ⟨0, 0⟩) :
    ∃ n : Numeral, n.negative = negative ∧
      n.text = ((if negative then "-" else "") ++
        if positional then Layout.positional s else Layout.marked s).toList ∧ n.Writes s := by
  have hbody : ∃ n : Numeral, n.negative = negative ∧
      n.body = (if positional then Layout.positional s else Layout.marked s).toList ∧
      n.Writes s := by
    cases positional with
    | true => exact exists_numeral_positional negative hs
    | false => exact exists_numeral_marked negative
  obtain ⟨n, hneg, htext, hwrites⟩ := hbody
  refine ⟨n, hneg, ?_, hwrites⟩
  rw [String.toList_append, ← htext, Numeral.text, hneg]
  cases negative <;> rfl

/-- **The text of a binary64 number is a numeral with its shortest digits.** -/
theorem exists_numeral_write (layout : Layout) (x : Binary64) :
    ∃ n : Numeral, n.negative = x.negative ∧ n.text = (layout.write x).toList ∧
      n.Writes (Binary64.shortest x.rank) :=
  exists_numeral_signed x.negative _ (shortest_digits x.rank)

/-! ## Numbers -/

/-- Every number is written as a numeral. -/
theorem exists_numeral_text (n : Number) : ∃ m : Numeral, m.text = n.text.toList := by
  cases n with
  | real x =>
      obtain ⟨m, -, htext, -⟩ := exists_numeral_write Number.layout x
      exact ⟨m, htext⟩
  | integer n => exact ⟨.ofInt n, Numeral.text_ofInt n⟩

/-- An integer that fits is read from its digits as that integer. -/
theorem numberOfParts?_ofInt {n : Int} (h : (Number.integer n).Fits) :
    numberOfParts? (n < 0) (Nat.toDigits 10 n.natAbs) [] none = some (.integer n) := by
  obtain ⟨hleast, hgreatest⟩ := h
  have hword : n.natAbs ≤ Decimal.wordLimit := by
    rw [Number.leastInteger] at hleast
    rw [Number.greatestInteger] at hgreatest
    rw [Decimal.wordLimit]
    omega
  have hdigits : accumulate 0 (Nat.toDigits 10 n.natAbs) = (n.natAbs, []) := by
    have hvalue : Nat.ofDigitChars 10 (Nat.toDigits 10 n.natAbs) 0 = n.natAbs :=
      digitsValue_toDigits n.natAbs
    have hall := accumulate_of_le (hvalue.trans_le hword)
    rwa [hvalue] at hall
  unfold numberOfParts?
  rw [hdigits]
  dsimp only
  by_cases hneg : n < 0
  · have hmagnitude : -(n.natAbs : Int) = n := by omega
    have hroom : (decide (0 < n.natAbs) &&
        decide (Number.leastInteger ≤ -(n.natAbs : Int))) = true := by
      rw [hmagnitude, Bool.and_eq_true, decide_eq_true_eq, decide_eq_true_eq]
      exact ⟨by omega, hleast⟩
    simp only [decide_eq_true hneg, List.isEmpty_nil, Option.isNone_none, Bool.and_self,
      Bool.not_true, Bool.false_eq_true, if_true, if_false]
    rw [if_pos hroom, hmagnitude]
  · have hmagnitude : (n.natAbs : Int) = n := by omega
    simp only [decide_eq_false hneg, List.isEmpty_nil, Option.isNone_none, Bool.and_self,
      Bool.not_false, if_true]
    rw [hmagnitude]

/-- **The text of a number is read.** -/
theorem isSome_number?_text {n : Number} (h : n.Fits) : (number? n.text.toList).isSome := by
  cases n with
  | integer n =>
      have hread := number?_append (.ofInt n) ends_nil
      rw [List.append_nil, Numeral.text_ofInt] at hread
      rw [Number.text, hread, Option.isSome_map]
      exact Option.isSome_of_eq_some (numberOfParts?_ofInt h)
  | real x =>
      rcases Nat.lt_or_eq_of_le (Nat.succ_le_of_lt h) with hlt | hlast
      · obtain ⟨m, -, htext, hwrites⟩ := exists_numeral_write Number.layout x
        have hrounds := hwrites.rounds (Binary64.rounds_shortest x.rank)
        have hread := number?_append m ends_nil
        rw [List.append_nil, htext] at hread
        rw [Number.text, hread, Option.isSome_map]
        exact isSome_numberOfParts? hwrites.not_integer (hrounds.le_lastMidpoint hlt)
      · -- the greatest number is above the midpoints; its text is read nevertheless
        obtain ⟨negative, rank⟩ := x
        obtain rfl : rank = Binary64.infinityRank - 1 := Nat.eq_sub_of_add_eq hlast
        cases negative <;> decide +kernel

/-- The number that is read from the text of a number. -/
def Number.reread (n : Number) : Number :=
  ((number? n.text.toList).map Prod.fst).getD n

/-- **In front of other text, the same number is read.** -/
theorem number?_text {n : Number} (h : n.Fits) {rest : List Char} (hrest : Ends rest) :
    number? (n.text.toList ++ rest) = some (n.reread, rest) := by
  obtain ⟨m, hm⟩ := exists_numeral_text n
  have halone := number?_append m ends_nil
  rw [List.append_nil, hm] at halone
  have hsome := isSome_number?_text h
  rw [halone, Option.isSome_map] at hsome
  obtain ⟨x, hx⟩ := Option.isSome_iff_exists.mp hsome
  rw [hx, Option.map_some] at halone
  rw [← hm, number?_append m hrest, hx, Number.reread, halone]
  rfl

namespace Number

variable {n : Number}

/-- The text of a number is read to its end. -/
theorem number?_eq_reread (h : n.Fits) : number? n.text.toList = some (n.reread, []) := by
  have hread := number?_text h ends_nil
  rwa [List.append_nil] at hread

/-- Integers come back. -/
theorem reread_integer {n : Int} (h : (Number.integer n).Fits) :
    (Number.integer n).reread = .integer n := by
  have hread := number?_append (.ofInt n) ends_nil
  have hparts : numberOfParts? (Numeral.ofInt n).negative (Numeral.ofInt n).whole
      (Numeral.ofInt n).frac (Numeral.ofInt n).exponent = some (.integer n) :=
    numberOfParts?_ofInt h
  rw [List.append_nil, Numeral.text_ofInt, hparts] at hread
  rw [reread, text, hread]
  rfl

/-- **Few digits behind the point come back.** -/
theorem reread_of_short {x : Binary64} (hdigits : (Binary64.shortest x.rank).digits ≤ 2 ^ 53)
    (hneg : (Binary64.shortest x.rank).exponent < 0)
    (hplaces : -22 ≤ (Binary64.shortest x.rank).exponent) :
    (Number.real x).reread = .real x := by
  obtain ⟨m, hsign, htext, hwrites⟩ := exists_numeral_write layout x
  have hvalue : m.value = Binary64.shortest x.rank :=
    hwrites.value.resolve_right fun h => absurd h.1 (Int.not_le.mpr hneg)
  have hrounds := Binary64.rounds_shortest x.rank
  rw [← hvalue] at hdigits hneg hplaces hrounds
  have hscaled : Binary64.scaled? m.value.digits m.value.exponent = some x.rank := by
    have hshort := Binary64.scaled?_of_short hdigits
      (show 0 < m.value.exponent.natAbs by omega) (show m.value.exponent.natAbs ≤ 22 by omega)
    have hexponent : -(m.value.exponent.natAbs : Int) = m.value.exponent := by omega
    rw [Scientific.num, Scientific.den, if_pos hneg, if_pos hneg, Nat.mul_one] at hrounds
    rw [hexponent] at hshort
    rw [hshort, ← Nat.pow_eq, hrounds.rankOfRatio_eq (Nat.pow_pos (by decide))]
  have hparts : numberOfParts? m.negative m.whole m.frac m.exponent = some (.real x) := by
    have hall : numberOfParts? m.negative m.whole m.frac m.exponent =
        (Binary64.scaled? m.value.digits m.value.exponent).map fun rank => .real ⟨m.negative, rank⟩ :=
      numberOfParts?_of_word hwrites.not_integer m.negative (Nat.le_trans hdigits (by decide))
    rw [hall, hscaled, hsign]
    rfl
  have hread := number?_append m ends_nil
  rw [List.append_nil, htext, hparts] at hread
  rw [reread, text, hread]
  rfl

/-- Many digits need not: 253.80657792484126 is read as its greater neighbour. -/
example : number? (Number.real ⟨false, 4643134041640541133⟩).text.toList =
    some (.real ⟨false, 4643134041640541134⟩, []) := by
  decide +kernel

end Number

end Json

end DefectCatalog
