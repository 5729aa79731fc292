import DefectCatalog.Text.Lines
import DefectCatalog.Text.Width

/-!
# Widths of padded texts

What is known of a measure (`Measure.Lawful`): a printed character of ASCII takes one
cell, and at the end of a text it leaves the width of what stands before it alone.  So
padding, which appends blanks, adds a cell for each character that is missing
(`width_padRight`): it counts the characters of the text and not its cells.
-/

namespace DefectCatalog.Text

/-- Whether `c` is a printed character of ASCII. -/
def isPlain (c : Char) : Bool :=
  0x20 ≤ c.toNat && c.toNat < 0x7F

theorem isPlain_iff {c : Char} : isPlain c ↔ 0x20 ≤ c.toNat ∧ c.toNat < 0x7F := by
  rw [isPlain, Bool.and_eq_true, decide_eq_true_eq, decide_eq_true_eq]

/-- The cells of the characters of a text, one by one. -/
def charCells [Measure] : List Char → Nat
  | [] => 0
  | c :: s => charWidth c + charCells s

theorem charCells_cons [Measure] (c : Char) (s : List Char) :
    charCells (c :: s) = charWidth c + charCells s :=
  rfl

/-- Whether `c` can take a cell more in a text than by itself: a control character, which has
none by itself, or a selector that gives the character before it its wider emoji form. -/
def swells (c : Char) : Bool :=
  isControl c || isEmojiSelector c

/-- What is known of the widths of texts and characters. -/
class Measure.Lawful [Measure] : Prop where
  width_empty : width "" = 0
  /-- Printed characters of ASCII at the end of a text take one cell each. -/
  width_append_plain (s : String) {t : String} (ht : ∀ c ∈ t.toList, isPlain c) :
    width (s ++ t) = width s + t.length
  charWidth_plain {c : Char} (hc : isPlain c) : charWidth c = 1
  /-- A text takes no more cells than its characters by themselves, but for control characters
  and emoji selectors. -/
  width_le (s : String) : width s ≤ charCells s.toList + s.toList.countP swells

export Measure.Lawful (width_append_plain)

variable [Measure] [Measure.Lawful]

/-! ## Plain texts -/

theorem width_plain {t : String} (ht : ∀ c ∈ t.toList, isPlain c) : width t = t.length := by
  have happend := width_append_plain "" ht
  rwa [String.empty_append, Measure.Lawful.width_empty, Nat.zero_add] at happend

/-- Padding adds a cell for each character that is missing. -/
theorem width_padRight (n : Nat) (s : String) :
    width (padRight n s) = width s + (n - s.length) := by
  have hblank : ∀ c ∈ (repeated (n - s.length) ' ').toList, isPlain c := by
    intro c hc
    rw [repeated, String.toList_ofList] at hc
    rw [List.eq_of_mem_replicate hc]
    rfl
  rw [padRight, width_append_plain s hblank, repeated, String.length_ofList,
    List.length_replicate]

/-! ## Cutting plain texts -/

/-- Of a plain text so many characters are taken as there are cells. -/
theorem takeCells_plain {s : List Char} (n : Nat) (hs : ∀ c ∈ s, isPlain c) :
    takeCells n s = s.take n := by
  induction s generalizing n with
  | nil => rw [takeCells, List.take_nil]
  | cons c s ih =>
      rw [List.forall_mem_cons] at hs
      rw [takeCells, Measure.Lawful.charWidth_plain hs.1]
      cases n with
      | zero => rfl
      | succ n =>
          rw [if_pos (Nat.le_add_left 1 n), Nat.add_sub_cancel, ih n hs.2, List.take_succ_cons]

/-- A plain text is cut to a plain text of at most so many characters. -/
theorem truncateCells_plain {s : String} (max : Nat) (hs : ∀ c ∈ s.toList, isPlain c) :
    (∀ c ∈ (truncateCells s max).toList, isPlain c) ∧ (truncateCells s max).length ≤ max := by
  have htake : ∀ n, ∀ c ∈ s.toList.take n, isPlain c :=
    fun n c hc => hs c (List.mem_of_mem_take hc)
  unfold truncateCells
  rw [width_plain hs]
  split
  · next hfits => exact ⟨hs, hfits⟩
  · split
    · rw [takeCells_plain max hs, String.toList_ofList, String.length_ofList]
      exact ⟨htake max, List.length_take_le _ _⟩
    · next hroom =>
        rw [takeCells_plain (max - 3) hs, String.toList_append, String.length_append,
          String.toList_ofList, String.length_ofList]
        have hlength := List.length_take_le (max - 3) s.toList
        have hthree : "...".length = 3 := rfl
        have hpoints : ∀ c ∈ "...".toList, isPlain c := by
          intro c hc
          obtain rfl : c = '.' := by simpa using hc
          rfl
        exact ⟨List.forall_mem_append.mpr ⟨htake _, hpoints⟩, by omega⟩

end DefectCatalog.Text
