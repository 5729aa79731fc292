import DefectCatalog.Proofs.Screen.Canvas

/-!
# The symbols of a row

The symbols of a line are its text, cluster by cluster (`flatten_symbols`).  A row on
which the line is drawn has each of them in the cell of its column, as far as they fit,
and its other cells as they were (`showsLine_drawCut`).
-/

namespace DefectCatalog

namespace Text

/-- Nothing is lost in cutting a text into clusters. -/
theorem flatten_clustersFrom (before : Option ClusterContext) (s : List Char) :
    (clustersFrom before s).flatten = s := by
  induction s generalizing before with
  | nil => rfl
  | cons c rest ih =>
      have hrest := ih (some (ClusterContext.pass before c))
      rw [clustersFrom]
      cases hclusters : clustersFrom (some (ClusterContext.pass before c)) rest with
      | nil =>
          rw [hclusters, List.flatten_nil] at hrest
          rw [← hrest]
          rfl
      | cons cluster more =>
          rw [hclusters] at hrest
          dsimp only
          split
          · rw [← hrest]
            rfl
          · rw [← hrest]
            rfl

end Text

namespace Screen

variable {gs : List Glyph} {g : Glyph} {x x' y limit used : Nat}

/-! ## The symbols of a line -/

/-- The symbols of a span without a line feed are its text. -/
theorem flatten_symbols_span (under : Style) {s : Span} (h : '\n' ∉ s.text.toList) :
    ((s.glyphs under).map Glyph.symbol).flatten = s.text.toList := by
  have hkept : (Text.clusters s.text.toList).filter (· != ['\n']) =
      Text.clusters s.text.toList := by
    rw [List.filter_eq_self]
    intro cluster hcluster
    rw [bne_iff_ne]
    rintro rfl
    refine h ?_
    rw [← Text.flatten_clustersFrom none s.text.toList]
    exact List.mem_flatten_of_mem hcluster (List.mem_singleton_self '\n')
  rw [Span.glyphs, hkept, List.map_map]
  show ((Text.clusters s.text.toList).map id).flatten = _
  rw [List.map_id]
  exact Text.flatten_clustersFrom none s.text.toList

/-- The symbols of a line without line feeds are the texts of its spans. -/
theorem flatten_symbols {l : Line} (h : ∀ s ∈ l.spans, '\n' ∉ s.text.toList) :
    (l.glyphs.map Glyph.symbol).flatten = l.spans.flatMap fun s => s.text.toList := by
  unfold Line.glyphs
  generalize l.spans = spans at h
  induction spans with
  | nil => rfl
  | cons s spans ih =>
      rw [List.forall_mem_cons] at h
      rw [List.flatMap_cons, List.map_append, List.flatten_append,
        flatten_symbols_span l.style h.1, ih h.2, List.flatMap_cons]

/-! ## The glyphs that fit -/

theorem glyphsWidth_cons (g : Glyph) (gs : List Glyph) :
    glyphsWidth (g :: gs) = g.width + glyphsWidth gs :=
  rfl

/-- Glyphs are cut so that they fit. -/
theorem glyphsWidth_cutGlyphs_le (gs : List Glyph) (h : used ≤ limit) :
    used + glyphsWidth (cutGlyphs limit used gs) ≤ limit := by
  induction gs generalizing used with
  | nil => exact h
  | cons g gs ih =>
      unfold cutGlyphs
      split
      · exact ih h
      split
      · exact h
      · next hfits =>
          rw [glyphsWidth_cons, ← Nat.add_assoc]
          exact ih (Nat.le_of_not_lt hfits)

/-- Glyphs that fit are not cut. -/
theorem cutGlyphs_of_le (h : used + glyphsWidth gs ≤ limit) : cutGlyphs limit used gs = gs := by
  induction gs generalizing used with
  | nil => rfl
  | cons g gs ih =>
      rw [glyphsWidth_cons] at h
      rw [cutGlyphs, if_neg (by omega), if_neg (by omega), ih (by omega)]

/-! ## The columns of glyphs -/

/-- The glyphs that take cells, each with its column, if the first one stands in column `x`. -/
def placed (x : Nat) : List Glyph → List (Nat × Glyph)
  | [] => []
  | g :: gs => if g.width = 0 then placed x gs else (x, g) :: placed (x + g.width) gs

/-- The columns of glyphs are next to each other, from the first one on. -/
theorem placed_bounds (h : (x', g) ∈ placed x gs) :
    x ≤ x' ∧ x' + g.width ≤ x + glyphsWidth gs := by
  induction gs generalizing x with
  | nil => cases h
  | cons g' gs ih =>
      rw [glyphsWidth_cons]
      unfold placed at h
      split at h
      · obtain ⟨hlow, hhigh⟩ := ih h
        exact ⟨hlow, by omega⟩
      · rcases List.mem_cons.mp h with hfirst | hrest
        · obtain ⟨hx, hg⟩ := Prod.mk.inj hfirst
          rw [hx, hg]
          exact ⟨Nat.le_refl x, by omega⟩
        · obtain ⟨hlow, hhigh⟩ := ih hrest
          exact ⟨by omega, by omega⟩

theorem width_ne_zero_of_placed (h : (x', g) ∈ placed x gs) : g.width ≠ 0 := by
  induction gs generalizing x with
  | nil => cases h
  | cons g' gs ih =>
      unfold placed at h
      split at h
      · exact ih h
      · next hcells =>
          rcases List.mem_cons.mp h with hfirst | hrest
          · cases hfirst
            exact hcells
          · exact ih hrest

namespace Canvas

variable {c d e : Canvas}

/-- On row `y` of `d` glyphs stand from column `x` on, and apart from them the row is that of
`c`. -/
structure ShowsRun (c d : Canvas) (x y : Nat) (gs : List Glyph) : Prop where
  cell?_of_placed : ∀ x' g, (x', g) ∈ placed x gs →
    d.cell? x' y = (c.cell? x' y).map (Cell.put g)
  cell?_otherwise : ∀ x', (∀ g, (x', g) ∉ placed x gs) → d.cell? x' y = c.cell? x' y

theorem ShowsRun.of_sameRow (h : ShowsRun c d x y gs) (hsame : SameRow y e d) :
    ShowsRun c e x y gs :=
  ⟨fun x' g hg => (hsame.cell?_eq x').trans (h.cell?_of_placed x' g hg),
    fun x' hx => (hsame.cell?_eq x').trans (h.cell?_otherwise x' hx)⟩

/-- A glyph that is drawn first stands in its column, and those after it stand behind. -/
theorem ShowsRun.cons {g : Glyph} (hg : g.width ≠ 0)
    (h : ShowsRun (c.modify x y (Cell.put g)) d (x + g.width) y gs) :
    ShowsRun c d x y (g :: gs) := by
  obtain ⟨hglyph, hother⟩ := h
  have hplaced : placed x (g :: gs) = (x, g) :: placed (x + g.width) gs := if_neg hg
  constructor
  · intro x' g' hg'
    rw [hplaced, List.mem_cons] at hg'
    rcases hg' with hfirst | hrest
    · obtain ⟨hx, hsame⟩ := Prod.mk.inj hfirst
      have hfree : ∀ g', (x, g') ∉ placed (x + g.width) gs := by
        intro g' hg'
        have hbehind := (placed_bounds hg').1
        omega
      rw [hx, hsame, hother x hfree, cell?_modify, if_pos ⟨rfl, rfl⟩]
    · have hbehind := (placed_bounds hrest).1
      rw [hglyph x' g' hrest, cell?_modify, if_neg (by omega)]
  · intro x' hx'
    rw [hplaced] at hx'
    have hne : x' ≠ x := by
      rintro rfl
      exact hx' g List.mem_cons_self
    have hrest : ∀ g', (x', g') ∉ placed (x + g.width) gs := by
      intro g' hg'
      exact hx' g' (List.mem_cons_of_mem _ hg')
    rw [hother x' hrest, cell?_modify, if_neg fun heq => hne heq.1]

/-- Each glyph that is drawn stands in the cell of its column. -/
theorem showsRun_drawRun (c : Canvas) (x y : Nat) (gs : List Glyph) :
    ShowsRun c (c.drawRun x y gs) x y gs := by
  induction gs generalizing c x with
  | nil => exact ⟨nofun, fun _ _ => rfl⟩
  | cons g gs ih =>
      by_cases hzero : g.width = 0
      · -- a glyph without a cell is neither drawn nor placed
        have hplaced : placed x (g :: gs) = placed x gs := if_pos hzero
        have hdrawn : c.drawRun x y (g :: gs) = c.drawRun x y gs := if_pos hzero
        obtain ⟨hglyph, hother⟩ := ih c x
        rw [hdrawn]
        exact ⟨hplaced ▸ hglyph, hplaced ▸ hother⟩
      · have hdrawn : c.drawRun x y (g :: gs) =
            (c.modify x y (Cell.put g)).drawRun (x + g.width) y gs := if_neg hzero
        rw [hdrawn]
        exact (ih (c.modify x y (Cell.put g)) (x + g.width)).cons hzero

/-- On row `y` of `d` the line stands from column `x` on, in at most `limit` cells. -/
structure ShowsLine (c d : Canvas) (x y limit : Nat) (l : Line) : Prop where
  /-- Each symbol stands in the cell of its column, and the other cells are those of `c`. -/
  run : ShowsRun c d x y (cutGlyphs limit 0 l.glyphs)
  /-- The symbols are those of the texts of the line, -/
  spelled : (∀ s ∈ l.spans, '\n' ∉ s.text.toList) →
    (l.glyphs.map Glyph.symbol).flatten = l.spans.flatMap fun s => s.text.toList
  /-- all of them if they fit. -/
  whole : glyphsWidth l.glyphs ≤ limit → cutGlyphs limit 0 l.glyphs = l.glyphs
  within : glyphsWidth (cutGlyphs limit 0 l.glyphs) ≤ limit

theorem ShowsLine.of_sameRow {l : Line} (h : ShowsLine c d x y limit l) (hsame : SameRow y e d) :
    ShowsLine c e x y limit l :=
  ⟨h.run.of_sameRow hsame, h.spelled, h.whole, h.within⟩

/-- **A row has the symbols of the line that is drawn on it**, each in the cell of its column. -/
theorem showsLine_drawCut (c : Canvas) (a : Area) (l : Line) (y : Nat) :
    ShowsLine c (c.drawCut { a with y, height := 1 } [l]) a.x y a.width l := by
  have hwithin : glyphsWidth (cutGlyphs a.width 0 l.glyphs) ≤ a.width := by
    have hle := glyphsWidth_cutGlyphs_le l.glyphs (Nat.zero_le a.width)
    rwa [Nat.zero_add] at hle
  refine ⟨?_, flatten_symbols, fun h => cutGlyphs_of_le (by rwa [Nat.zero_add]), hwithin⟩
  by_cases hwidth : a.width = 0
  · -- without a column nothing is drawn, and no glyph that takes a cell fits
    have hnone : ∀ x' g, (x', g) ∉ placed a.x (cutGlyphs a.width 0 l.glyphs) := by
      intro x' g hg
      have hbounds := placed_bounds hg
      have hcells := width_ne_zero_of_placed hg
      omega
    have hdrawn : c.drawCut { a with y, height := 1 } [l] = c := by
      rw [drawCut, Area.isEmpty, hwidth]
      rfl
    rw [hdrawn]
    exact ⟨fun x' g hg => absurd hg (hnone x' g), fun _ _ => rfl⟩
  · have hdrawn : c.drawCut { a with y, height := 1 } [l] =
        c.drawRun a.x y (cutGlyphs a.width 0 l.glyphs) := by
      have hwidth' : ({ a with y, height := 1 } : Area).width ≠ 0 := hwidth
      rw [c.drawCut_eq hwidth']
      rfl
    rw [hdrawn]
    exact c.showsRun_drawRun a.x y (cutGlyphs a.width 0 l.glyphs)

end Canvas

end Screen

end DefectCatalog
