import DefectCatalog.Proofs.View.Moves

/-!
# Settled views

A view is settled when what it derives agrees with what it is derived from: the
visible list with the records, filters, match mode and sort, and the detail with
the route and the visible list.  A view starts settled, and every move leaves it
so; nothing else is known of how it came about.
-/

namespace DefectCatalog.View

/-- The derived parts of a view are those that the other parts call for. -/
structure Settled (v : View) : Prop where
  visible_eq : v.visible = (arrange v.filters v.mode v.sort v.records).map Prod.snd
  detail_eq : v.detail = Detail.ofPosition? v.resolved?

variable {v w : View}

/-- A view without documents shows nothing, so it is settled. -/
theorem settled_new (sort : Sorting) (mode : Matching) : (new sort mode).Settled :=
  ⟨by simp [new, arrange, Sorting.sortBy], rfl⟩

/-- Following the route settles a view whose visible list is up to date. -/
theorem settled_followRoute (always : Bool)
    (h : v.visible = (arrange v.filters v.mode v.sort v.records).map Prod.snd) :
    (v.followRoute always).Settled :=
  ⟨h, rfl⟩

/-- Deriving everything again settles any view. -/
theorem settled_refresh (v : View) : v.refresh.Settled :=
  settled_followRoute false rfl

/-- A move leads from a settled view to a settled view. -/
theorem Settled.move (h : v.Settled) (hmove : Move v w) : w.Settled := by
  cases hmove with
  | remember key =>
      obtain ⟨counts, heq⟩ := v.count_eq_with_counts key
      rw [heq]
      exact ⟨h.visible_eq, h.detail_eq⟩
  | relabel taxonomy => exact ⟨h.visible_eq, h.detail_eq⟩
  | load records => exact settled_refresh _
  | choose filters mode sort => exact settled_refresh _
  | stay => exact settled_followRoute true h.visible_eq
  | enter r hr => exact settled_followRoute true h.visible_eq
  | leave history hback => exact settled_followRoute true h.visible_eq

/-- Moves lead from a settled view to a settled view. -/
theorem Settled.moves (h : v.Settled) (hmoves : v.Moves w) : w.Settled :=
  hmoves.induction (fun hmove hv => hv.move hmove) h

/-- Draining the queue leaves a settled view settled. -/
theorem Settled.drain (h : v.Settled) : v.drain.2.Settled :=
  ⟨h.visible_eq, h.detail_eq⟩

/-- A run leads from a settled view to a settled view. -/
theorem Settled.performAll (h : v.Settled) (ops : List Operation) : (v.performAll ops).Settled :=
  performAll_induction (fun hmove hv => hv.move hmove) (fun hv => hv.drain) ops h

/-- **Every run leaves a settled view**, whatever its operations are and however
they follow each other. -/
theorem settled_performAll (sort : Sorting) (mode : Matching) (ops : List Operation) :
    ((new sort mode).performAll ops).Settled :=
  (settled_new sort mode).performAll ops

end DefectCatalog.View
