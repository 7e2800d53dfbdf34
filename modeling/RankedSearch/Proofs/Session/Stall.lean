import RankedSearch.Proofs.Session.Barrier

/-! # The first page is not lost

The lifecycle asks for the first page once, on the first report that the query is ranked, and never
again. Nothing may swallow that: `Pursued` says that from then on the page is being fetched, has
come or was answered with a failure, whatever is reported or asked for later. -/
namespace RankedSearch.Session

/-! ## Histories -/

/-- The query was reported as ranked. -/
def Reported (id : Query.Id) (history : List Event) : Prop :=
  ∃ e ∈ history, e.input = .notified ⟨id, .stage .ranked⟩

/-- Some fetch of a page was answered with a failure. -/
def FetchFailed (history : List Event) : Prop :=
  ∃ e ∈ history, ∃ requested fault, e.input = .answered (.fetched requested (.error fault))

theorem reported_snoc (id : Query.Id) (history : List Event) (e : Event) :
    Reported id (history ++ [e]) ↔
      Reported id history ∨ e.input = .notified ⟨id, .stage .ranked⟩ := by
  simp [Reported, or_and_right, exists_or]

theorem FetchFailed.append {history : List Event} (h : FetchFailed history) (later : List Event) :
    FetchFailed (history ++ later) := by
  obtain ⟨e, he, hfailed⟩ := h
  exact ⟨e, List.mem_append_left _ he, hfailed⟩

theorem Input.stage?_eq_some_iff {id : Query.Id} {i : Input} {stage : Stage} :
    i.stage? id = some stage ↔ i = .notified ⟨id, .stage stage⟩ := by
  unfold stage? news?
  cases i with
  | notified n =>
    obtain ⟨query, news⟩ := n
    by_cases hq : query = id
    · cases news <;> simp [hq]
    · simp [hq]
  | channelClosed | deadlinePassed | command _ | answered _ => simp

/-- A query that is shown as ranked was reported as such. -/
theorem reported_of_stageOf {id : Query.Id} {history : List Event}
    (h : stageOf id history = .ranked) : Reported id history := by
  unfold stageOf at h
  cases hl : lastOf (Input.stage? id) history with
  | none => rw [hl] at h; cases h
  | some stage =>
    rw [hl] at h
    obtain rfl : stage = .ranked := h
    obtain ⟨e, he, hstage⟩ := List.mem_filterMap.mp (List.mem_of_getLast? hl)
    exact ⟨e, he, Input.stage?_eq_some_iff.mp hstage⟩

/-- A failed fetch leaves an error behind. -/
theorem FetchFailed.complaint {history : List Event} (h : FetchFailed history) (id : Query.Id) :
    (lastOf (Input.complaint? id) history).isSome = true := by
  obtain ⟨e, he, requested, fault, hi⟩ := h
  have htold : e.input.complaint? id = some fault.message := by rw [hi]; rfl
  rw [lastOf, List.getLast?_isSome]
  exact List.ne_nil_of_mem (List.mem_filterMap.mpr ⟨e, he, htold⟩)

/-! ## The latch of the first page -/

theorem Running.trigger?_eq_report_iff {s : Running} {i : Input} {stage : Stage} :
    s.trigger? i = some (.stageReported stage) ↔ i = .notified ⟨s.query, .stage stage⟩ := by
  rw [← Input.stage?_eq_some_iff, s.stage?_eq_trigger? i]
  cases s.trigger? i with
  | none => simp
  | some t => cases t <;> simp

theorem Running.Reacts.firstPageFired_iff {s s' : Running} {i : Input} {started : List Task}
    (hr : s.Reacts i s' started) :
    s'.lifecycle.firstPageFired = true ↔
      s.lifecycle.firstPageFired = true ∨ i = .notified ⟨s.query, .stage .ranked⟩ := by
  rw [hr.lifecycle_eq, ← s.trigger?_eq_report_iff]
  cases s.trigger? i with
  | none => simp
  | some t =>
    have hlatch : (s.lifecycle.apply t).1.firstPageFired = _ :=
      s.lifecycle.apply_fired_eq t (a := .fetchFirstPage) nofun
    rw [Option.elim_some, hlatch, Bool.or_eq_true, decide_eq_true_iff, Option.some.injEq]
    rfl

/-- The first page was asked for just if the query was reported as ranked. -/
theorem Run.firstPageFired_iff {route : Query.Route} {history : List Event} {s : Running}
    (r : Run route history s) :
    s.lifecycle.firstPageFired = true ↔ Reported route.id history := by
  induction r with
  | refl => simp [Reported, Running.init]
  | @step history s i r _ ih =>
    rw [reported_snoc, ← ih, ← (Run.upToDate r).query_eq]
    exact (s.reacts i).firstPageFired_iff

/-! ## The first page -/

/-- If there is no page to fetch, one is being fetched or some have come. -/
theorem Pager.of_nextPage_eq_none {p : Pager} (h : p.nextPage = none) :
    p.loading = true ∨ p.currentPage ≠ 0 := by
  unfold nextPage at h
  by_cases hl : p.loading = true
  · exact Or.inl hl
  · refine Or.inr fun hz => ?_
    rw [if_neg hl, if_pos hz] at h
    cases h

/-- What has become of the first page, once it was asked for. -/
def Pursued (history : List Event) (p : Pager) : Prop :=
  p.loading = true ∨ p.currentPage ≠ 0 ∨ FetchFailed history

namespace Pursued

variable {history : List Event} {p : Pager}

theorem congr {q : Pager} (h : Pursued history p) (hl : q.loading = p.loading)
    (hc : q.currentPage = p.currentPage) : Pursued history q := by
  rw [Pursued, hl, hc]
  exact h

theorem append (h : Pursued history p) (later : List Event) : Pursued (history ++ later) p :=
  h.imp_right fun h => h.imp_right fun h => h.append later

/-- The latch closes only with an input that fetches the page, or finds it fetched; a fetch ends with
a page or with a failure. What an event says of the tasks that it started plays no part. -/
theorem react {s s' : Running} {i : Input} {started : List Task}
    (h : s.lifecycle.firstPageFired = true → Pursued history s.pager) (hacc : Accounted s)
    (ha : s.Accepts i) (hr : s.Reacts i s' started) (hf : s'.lifecycle.firstPageFired = true)
    (tasks : List Task) : Pursued (history ++ [⟨i, tasks⟩]) s'.pager := by
  have hlatch (t : Trigger) := s.lifecycle.apply_fired t .fetchFirstPage
  have hkept (hl : s.lifecycle.firstPageFired = true) := (h hl).append [⟨i, tasks⟩]
  cases hr with
  | shown | called | accepted => exact hkept hf
  | @heard _ t v _ _ hact =>
    rcases hact with hnone | ⟨_, hnext⟩
    · rcases (hlatch t).mp hf with hl | hnew
      · exact hkept hl
      · rw [hnone] at hnew; cases hnew
    · -- the page is on its way, or it has come
      exact (Pager.of_nextPage_eq_none hnext).imp_right Or.inl
  | @call _ t a _ _ _ _ hact hc =>
    rcases (hlatch t).mp hf with hl | hnew
    · exact hkept hl
    · rw [hact] at hnew; cases hnew; cases hc
  | fetch => exact Or.inl rfl
  | @flags c v _ =>
    rw [Running.startFlags_lifecycle] at hf
    exact Running.startFlags_induction
      (P := fun t _ => Pursued (history ++ [⟨.command c, tasks⟩]) t.pager)
      (s := { s with view := v }) _ (hkept hf)
      fun t _ index _ _ ih => ih.congr rfl rfl
  | loaded requested page =>
    -- no page that comes has the number of none
    refine Or.inr (Or.inl fun hz => ?_)
    have hle := UInt32.le_iff_toNat_le.mp (Pager.le_max_requested page.number requested)
    have hnext := hacc.requested_toNat ha
    rw [(Pager.completeFetch_eq page hnext).2] at hz
    dsimp only at hz
    rw [hz] at hle
    exact absurd (hnext ▸ hle) (by simp)
  | missed requested fault =>
    exact Or.inr (Or.inr ⟨_, List.mem_concat_self, requested, fault, rfl⟩)
  | refused patch => exact (hkept hf).congr (by simp) (by simp)
  | confirmed patch _ precision => exact (hkept hf).congr (by simp) (by simp)

end Pursued

theorem Run.pursued {route : Query.Route} {history : List Event} {s : Running}
    (r : Run route history s) (h : Reported route.id history) : Pursued history s.pager := by
  rw [← Run.firstPageFired_iff r] at h
  induction r with
  | refl => cases h
  | @step history s i r ha ih => exact Pursued.react ih (Run.accounted r) ha (s.reacts i) h _

/-! ## Views that stall -/

/-- A view of a ranked query in which no page has come and none is on its way. -/
structure View.Stalled (v : View) : Prop where
  stage : v.stage = .ranked
  currentPage : v.currentPage = 0
  loadingPage : v.loadingPage = false

/-- A session stalls only after the service has failed it, and says so. -/
theorem Run.stalled {route : Query.Route} {history : List Event} {s : Running}
    (r : Run route history s) (h : s.view.Stalled) :
    FetchFailed history ∧ s.view.lastError.isSome = true := by
  obtain ⟨hstage, hpage, hloading⟩ := h
  rw [(Run.upToDate r).view] at hstage hpage hloading ⊢
  rcases Run.pursued r (reported_of_stageOf hstage) with hl | hc | hfailed
  · cases hl.symm.trans hloading
  · exact absurd hpage hc
  · exact ⟨hfailed, hfailed.complaint route.id⟩

/-- The same of the last view of a session that is not closed. -/
theorem Course.stalled {phrase : Query.Phrase} {log : List Happening} {p : Phase} {v : View}
    (c : Course phrase log p) (hv : (views log).getLast? = some v) (ho : v.closed = false)
    (h : v.Stalled) : FetchFailed (events log) ∧ v.lastError.isSome = true := by
  rcases c.last_published hv with ⟨id, body, l, rfl, ht, rfl⟩ | ⟨hclosed, _⟩
  · rw [events_opened]
    exact Run.stalled ht.run h
  · cases ho.symm.trans hclosed

end RankedSearch.Session
