import DefectCatalog.Proofs.View.BackStack

/-!
# The moments at which the documents arrive

Records and taxonomy arrive at any moment between the reader's own operations.
Most of these look at no document (`Operation.LooksAtNoDocument`): what they do
to the reader's choices depends on the choices alone (`choices_perform`).  So
wherever the documents arrive in such a run (`Arrivals`), the choices and the
documents are the same in the end, and with them all that a settled view shows
(`sameShown_of_eq`).

The counts of flags are remembered from one call to the next.  They agree with
the records that are loaded (`Recalls`), since new records make them forgotten.
-/

namespace DefectCatalog.View

/-- What the reader chose. -/
structure Choices where
  filters : Filters
  mode : Matching
  sort : Sorting
  history : History

/-- The choices in a view. -/
def choices (v : View) : Choices :=
  ⟨v.filters, v.mode, v.sort, v.history⟩

/-- The documents in a view. -/
def documents (v : View) : List Record × Taxonomy :=
  (v.records, v.taxonomy)

/-- The operations that do the same to the reader's choices whatever is loaded. -/
inductive Operation.LooksAtNoDocument : Operation → Prop
  | navigate (route : Route) : LooksAtNoDocument (.navigate route)
  | close : LooksAtNoDocument .close
  | back : LooksAtNoDocument .back
  | toggleFilter (key : String) : LooksAtNoDocument (.toggleFilter key)
  | setFilter (key : String) (active : Bool) : LooksAtNoDocument (.setFilter key active)
  | activateFilters (keys : List String) : LooksAtNoDocument (.activateFilters keys)
  | resetFilters : LooksAtNoDocument .resetFilters
  | setMode (mode : Matching) : LooksAtNoDocument (.setMode mode)
  | toggleMode : LooksAtNoDocument .toggleMode
  | sortBy (fields : List String) : LooksAtNoDocument (.sortBy fields)
  | count (key : String) : LooksAtNoDocument (.count key)
  | drain : LooksAtNoDocument .drain

/-- The runs in which both documents arrive at some moment of the run `ops`. -/
inductive Arrivals (records : List Record) (taxonomy : Taxonomy) :
    (ops : List Operation) → List Operation → Prop
  | recordsFirst (before between after : List Operation) :
      Arrivals records taxonomy (before ++ between ++ after)
        (before ++ .setRecords records :: between ++ .setTaxonomy taxonomy :: after)
  | taxonomyFirst (before between after : List Operation) :
      Arrivals records taxonomy (before ++ between ++ after)
        (before ++ .setTaxonomy taxonomy :: between ++ .setRecords records :: after)

/-- Two views show the same, and answer the same. -/
structure SameShown (v w : View) : Prop where
  visible_eq : v.visible = w.visible
  visibleRecords_eq : v.visibleRecords = w.visibleRecords
  detail_eq : v.detail = w.detail
  openRecord_eq : v.openRecord? = w.openRecord?
  route_eq : v.route = w.route
  hasPast_eq : v.history.hasPast = w.history.hasPast
  filters_eq : v.filters = w.filters
  mode_eq : v.mode = w.mode
  sort_eq : v.sort = w.sort
  count_eq : ∀ key, (v.count key).1 = (w.count key).1

variable {v w : View} {op : Operation} {ops xs ys : List Operation}
  {records : List Record} {taxonomy : Taxonomy}

/-! ## Choices -/

/-- A change of views acts on the choices by `f`, whatever the documents are, and
leaves these alone. -/
structure Steers (f : Choices → Choices) (change : View → View) : Prop where
  choices_eq : ∀ v, (change v).choices = f v.choices
  documents_eq : ∀ v, (change v).documents = v.documents

theorem steers_id : Steers id id :=
  ⟨fun _ => rfl, fun _ => rfl⟩

/-- One change after the other steers by one function after the other. -/
theorem Steers.comp {f g : Choices → Choices} {change later : View → View}
    (hg : Steers g later) (hf : Steers f change) : Steers (g ∘ f) (later ∘ change) where
  choices_eq v := (hg.choices_eq _).trans (congrArg g (hf.choices_eq v))
  documents_eq v := (hg.documents_eq _).trans (hf.documents_eq v)

/-- Going to a route puts it into the history, whatever the documents are. -/
theorem steers_navigate (r : Route) :
    Steers (fun c => { c with history := c.history.push r }) (·.navigate r) where
  choices_eq v := by
    by_cases hr : v.route = r
    · subst hr
      have hstay : { v.choices with history := v.history.push v.history.current } = v.choices := by
        rw [History.push_current]
        rfl
      rw [navigate, if_pos rfl]
      exact hstay.symm
    · rw [navigate, if_neg hr]
      rfl
  documents_eq v := by
    unfold navigate
    split <;> rfl

/-- Going back takes a route off the history, whatever the documents are. -/
theorem steers_back :
    Steers (fun c => { c with history := c.history.back?.getD c.history }) (·.back.2) where
  choices_eq v := by
    cases hback : v.history.back? with
    | none => simp [back, choices, hback]
    | some history =>
        simp only [back, choices, hback]
        rfl
  documents_eq v := by
    unfold back
    split <;> rfl

/-- Setting the mode is a matter of the choices, whatever the documents are. -/
theorem steers_setMode (mode : Matching) : Steers (fun c => { c with mode }) (·.setMode mode) where
  choices_eq v := by
    unfold setMode
    split
    · next hmode =>
        subst hmode
        rfl
    · rfl
  documents_eq v := by
    unfold setMode
    split <;> rfl

theorem steers_toggleMode :
    Steers (fun c => { c with mode := c.mode.toggled }) (·.toggleMode.2) where
  choices_eq v := (steers_setMode v.mode.toggled).choices_eq v
  documents_eq v := (steers_setMode v.mode.toggled).documents_eq v

/-- Setting a filter is a matter of the choices, whatever the documents are. -/
theorem steers_setFilter (key : String) (active : Bool) :
    Steers (fun c => { c with filters := c.filters.set key active }) (·.setFilter key active) :=
  ⟨fun _ => rfl, fun _ => rfl⟩

theorem steers_activateFilters (keys : List String) :
    ∃ f, Steers f (·.activateFilters keys) := by
  induction keys with
  | nil => exact ⟨id, steers_id⟩
  | cons key keys ih =>
      obtain ⟨f, hf⟩ := ih
      exact ⟨_, hf.comp (steers_setFilter key true)⟩

/-- Counting changes no choice. -/
theorem steers_count (key : String) : Steers id fun v => (v.count key).2 where
  choices_eq v := by
    obtain ⟨counts, heq⟩ := v.count_eq_with_counts key
    rw [heq]
    rfl
  documents_eq v := by
    obtain ⟨counts, heq⟩ := v.count_eq_with_counts key
    rw [heq]
    rfl

/-- **One operation** that looks at no document acts on the choices alone. -/
theorem Operation.LooksAtNoDocument.steers (hop : op.LooksAtNoDocument) :
    ∃ f, Steers f fun v => (v.perform op).2 := by
  cases hop with
  | navigate r => exact ⟨_, steers_navigate r⟩
  | close => exact ⟨_, steers_navigate .list⟩
  | back => exact ⟨_, steers_back⟩
  | toggleFilter key =>
      exact ⟨fun c => { c with filters := c.filters.toggle key }, fun _ => rfl, fun _ => rfl⟩
  | setFilter key active => exact ⟨_, steers_setFilter key active⟩
  | activateFilters keys => exact steers_activateFilters keys
  | resetFilters =>
      exact ⟨fun c => { c with filters := c.filters.clear }, fun _ => rfl, fun _ => rfl⟩
  | setMode mode => exact ⟨_, steers_setMode mode⟩
  | toggleMode => exact ⟨_, steers_toggleMode⟩
  | sortBy fields =>
      exact ⟨fun c => { c with sort := c.sort.click fields }, fun _ => rfl, fun _ => rfl⟩
  | count key => exact ⟨_, steers_count key⟩
  | drain => exact ⟨id, fun _ => rfl, fun _ => rfl⟩

/-- A run of such operations acts on the choices alone. -/
theorem steers_performAll (hops : ∀ op ∈ ops, op.LooksAtNoDocument) :
    ∃ f, Steers f (·.performAll ops) := by
  induction ops with
  | nil => exact ⟨id, steers_id⟩
  | cons op ops ih =>
      rw [List.forall_mem_cons] at hops
      obtain ⟨f, hf⟩ := hops.1.steers
      obtain ⟨g, hg⟩ := ih hops.2
      exact ⟨g ∘ f, hg.comp hf⟩

/-! ## Arrivals -/

section Documents

variable (v : View) (records : List Record) (taxonomy : Taxonomy)

/-- Records that arrive change no choice. -/
@[simp] theorem choices_setRecords :
    (v.perform (.setRecords records)).2.choices = v.choices :=
  rfl

/-- Records that arrive take the place of the ones before. -/
@[simp] theorem documents_setRecords :
    (v.perform (.setRecords records)).2.documents = (records, v.documents.2) :=
  rfl

/-- A taxonomy that arrives changes no choice. -/
@[simp] theorem choices_setTaxonomy :
    (v.perform (.setTaxonomy taxonomy)).2.choices = v.choices :=
  rfl

/-- A taxonomy that arrives takes the place of the one before. -/
@[simp] theorem documents_setTaxonomy :
    (v.perform (.setTaxonomy taxonomy)).2.documents = (v.documents.1, taxonomy) :=
  rfl

end Documents

/-- **The moments do not matter to what is given.**  The choices after a run are
those that it would have made without the arrivals, and the documents are those
that arrived. -/
theorem Arrivals.choices_documents (h : Arrivals records taxonomy ops xs)
    (hops : ∀ op ∈ ops, op.LooksAtNoDocument) (v : View) :
    (v.performAll xs).choices = (v.performAll ops).choices ∧
      (v.performAll xs).documents = (records, taxonomy) := by
  cases h with
  | recordsFirst before between after | taxonomyFirst before between after =>
      simp only [List.forall_mem_append] at hops
      obtain ⟨f, hf⟩ := steers_performAll hops.1.1
      obtain ⟨g, hg⟩ := steers_performAll hops.1.2
      obtain ⟨k, hk⟩ := steers_performAll hops.2
      simp [performAll_append, performAll_cons, hf.choices_eq, hf.documents_eq,
        hg.choices_eq, hg.documents_eq, hk.choices_eq, hk.documents_eq]

/-! ## Remembered counts -/

/-- The remembered counts are those of the records that are loaded. -/
def Recalls (v : View) : Prop :=
  ∀ key n, Keyed.lookup? v.counts key = some n → n = countIn v.records key

/-- A view that recalls counts as if it counted anew. -/
theorem Recalls.count_eq (h : v.Recalls) (key : String) :
    (v.count key).1 = countIn v.records key := by
  unfold count
  split
  · next n hn => exact h key n hn
  · rfl

/-- Counting adds a number that is right. -/
theorem Recalls.count (h : v.Recalls) (key : String) : (v.count key).2.Recalls := by
  unfold View.count
  split
  · exact h
  · next hunknown =>
      intro k n hn
      by_cases hk : k = key
      · subst hk
        rw [Keyed.lookup?_put_self] at hn
        exact (Option.some.inj hn).symm
      · rw [Keyed.lookup?_put_of_ne _ _ hk] at hn
        exact h k n hn

/-- A move keeps the remembered counts right: new records make them forgotten. -/
theorem Recalls.move (h : v.Recalls) (hmove : Move v w) : w.Recalls := by
  cases hmove with
  | remember key => exact h.count key
  | load records =>
      intro key n hn
      cases hn
  | relabel | choose | stay | enter | leave => exact h

/-- A view recalls right numbers along every run. -/
theorem recalls_performAll (h : v.Recalls) (ops : List Operation) : (v.performAll ops).Recalls :=
  performAll_induction (fun hmove hv => hv.move hmove) id ops h

/-! ## What is shown -/

/-- **What is given determines what is shown.**  Settled views with the same
choices and the same documents show the same. -/
theorem sameShown_of_eq (hv : v.Settled) (hw : w.Settled) (hcounts : v.Recalls)
    (hcounts' : w.Recalls) (hchoices : v.choices = w.choices)
    (hdocuments : v.documents = w.documents) : SameShown v w := by
  obtain ⟨hfilters, hmode, hsort, hhistory⟩ := Choices.mk.inj hchoices
  obtain ⟨hrecords, htaxonomy⟩ := Prod.mk.inj hdocuments
  have hroute : v.route = w.route := congrArg History.current hhistory
  have hvisible : v.visible = w.visible := by
    rw [hv.visible_eq, hw.visible_eq, hfilters, hmode, hsort, hrecords]
  have hlist : w.SameList v := ⟨hvisible, hrecords, htaxonomy⟩
  have hdetail : v.detail = w.detail := hw.detail_eq_of hv hroute hlist
  refine ⟨hvisible, hlist.visibleRecords_eq, hdetail, ?_, hroute, by rw [hhistory], hfilters,
    hmode, hsort, ?_⟩
  · have hlook : v.visibleRecord? = w.visibleRecord? := by
      funext position
      rw [visibleRecord?, visibleRecord?, hvisible, hrecords]
    rw [openRecord?, openRecord?, hdetail, hlook]
  · intro key
    rw [hcounts.count_eq, hcounts'.count_eq, hrecords]

/-- **The order in which the documents arrive does not matter.**  From every
state that can be reached, the same operations end in the same view at whatever
moments among them both documents arrive. -/
theorem sameShown_of_arrivals (sort : Sorting) (mode : Matching) (past : List Operation)
    (hops : ∀ op ∈ ops, op.LooksAtNoDocument) (hxs : Arrivals records taxonomy ops xs)
    (hys : Arrivals records taxonomy ops ys) :
    SameShown (((new sort mode).performAll past).performAll xs)
      (((new sort mode).performAll past).performAll ys) := by
  have hsettled := settled_performAll sort mode past
  have hrecalls : ((new sort mode).performAll past).Recalls :=
    recalls_performAll (fun _ _ hn => by cases hn) past
  obtain ⟨hchoices, hdocuments⟩ := hxs.choices_documents hops ((new sort mode).performAll past)
  obtain ⟨hchoices', hdocuments'⟩ := hys.choices_documents hops ((new sort mode).performAll past)
  exact sameShown_of_eq (hsettled.performAll xs) (hsettled.performAll ys)
    (recalls_performAll hrecalls xs) (recalls_performAll hrecalls ys)
    (hchoices.trans hchoices'.symm) (hdocuments.trans hdocuments'.symm)

/-- A deep link that is taken before the bugs are there leads to the view of one
that is taken afterwards, with the bug open. -/
theorem sameShown_of_deepLink :
    let bugs : List Record := [.new "Chart" "1", .new "Chart" "2"]
    let link : List Operation := [.navigate (.bug "Chart" "2"), .toggleMode]
    SameShown ((new.performAll []).performAll (.setRecords bugs :: .setTaxonomy .empty :: link))
        ((new.performAll []).performAll (link ++ [.setTaxonomy .empty, .setRecords bugs])) ∧
      (new.performAll (link ++ [.setTaxonomy .empty, .setRecords bugs])).detail = .on 1 := by
  intro bugs link
  have hlink : ∀ op ∈ link, op.LooksAtNoDocument := by
    simp only [link, List.forall_mem_cons, List.not_mem_nil, false_imp_iff, implies_true, and_true]
    exact ⟨.navigate _, .toggleMode⟩
  have hsettled := settled_performAll .default .all
    (link ++ [.setTaxonomy .empty, .setRecords bugs])
  have hvisible : (new.performAll (link ++ [.setTaxonomy .empty, .setRecords bugs])).visible =
      [0, 1] := by
    rw [hsettled.visible_eq]
    exact congrArg (List.map Prod.snd) (List.mergeSort_of_pairwise (by decide))
  refine ⟨sameShown_of_arrivals .default .all [] hlink (.recordsFirst [] [] link)
    (.taxonomyFirst link [] []), ?_⟩
  rw [hsettled.detail_eq, resolved?, hvisible]
  rfl

end DefectCatalog.View
