import RankedSearch.Proofs.Session.Run

/-! # What is in flight is accounted for

The tasks of a session, the flag of its pager and the counter of its marks are three records of the
same calls. `Accounted` says that they agree; every input keeps it. -/
namespace RankedSearch.Session

/-! ## The cursor -/

namespace Pager

/-- The page to fetch next is the one after the cursor, a number that 32 bits can hold. -/
theorem nextPage_eq_some {p : Pager} {page : UInt32} (h : p.nextPage = some page) :
    p.loading = false ∧ (p.currentPage = 0 ∨ p.currentPage < p.pageCount) ∧
      page.toNat = p.currentPage.toNat + 1 := by
  unfold nextPage at h
  split at h
  · cases h
  · rename_i hl
    refine ⟨by simpa using hl, ?_⟩
    split at h
    · rename_i hz
      cases h
      exact ⟨Or.inl hz, by rw [hz]; rfl⟩
    · split at h
      · cases h
      · rename_i hc
        cases h
        have hlt : p.currentPage < p.pageCount := UInt32.not_le.mp hc
        refine ⟨Or.inr hlt, ?_⟩
        have hn := UInt32.lt_iff_toNat_lt.mp hlt
        have hm := p.pageCount.toNat_lt
        rw [UInt32.toNat_add]
        exact Nat.mod_eq_of_lt (by rw [UInt32.toNat_one]; omega)

/-- The next page depends on the cursor alone. -/
theorem nextPage_congr {p q : Pager} (hl : p.loading = q.loading)
    (hc : p.currentPage = q.currentPage) (hn : p.pageCount = q.pageCount) :
    p.nextPage = q.nextPage := by
  unfold nextPage; rw [hl, hc, hn]

theorem nextPage_revert (p : Pager) (patch : Patch) :
    (p.revert patch).nextPage = p.nextPage := nextPage_congr (by simp) (by simp) (by simp)

theorem nextPage_settle (p : Pager) (patch : Patch) (outcome : FlagOutcome) :
    (p.settle patch outcome).nextPage = p.nextPage := nextPage_congr (by simp) (by simp) (by simp)

theorem abortFetch_of_idle {p : Pager} (h : p.loading = false) : p.abortFetch = p := by
  unfold abortFetch; rw [← h]

end Pager

/-! ## Lists of tasks -/

theorem countP_erase_add {p : Task → Bool} {t : Task} {tasks : List Task} (h : t ∈ tasks) :
    (tasks.erase t).countP p + (p t).toNat = tasks.countP p := by
  rw [(List.perm_cons_erase h).countP_eq p, List.countP_cons]
  cases p t <;> rfl

/-- Training and ranking are no fetches and no updates. -/
theorem Action.call?_eq_some {a : Action} {task : Task} (h : a.call? = some task) :
    task.isUpdate = false ∧ task.isFetch = false := by
  cases a <;> cases h <;> exact ⟨rfl, rfl⟩

theorem Action.call?_inj {a b : Action} {task : Task} (ha : a.call? = some task)
    (hb : b.call? = some task) : a = b := by
  cases a <;> cases ha <;> cases b <;> first | rfl | cases hb

/-- A latch that has closed stays closed. -/
theorem Lifecycle.fired_le_apply (l : Lifecycle) (t : Trigger) (a : Action) :
    (l.fired a).toNat ≤ ((l.apply t).1.fired a).toNat := by
  have h := l.apply_fired t a
  cases hb : l.fired a with
  | false => simp
  | true => exact Nat.le_of_eq (by rw [h.mpr (Or.inl hb)])

/-! ## The records of the outstanding calls -/

/-- No call is made oftener than its latch allows. -/
def Latched (l : Lifecycle) (tasks : List Task) : Prop :=
  ∀ a task, a.call? = some task → tasks.count task ≤ (l.fired a).toNat

/-- The records of the outstanding calls agree. A fetch is for the page that comes next again if
the fetch fails. -/
structure Accounted (s : Running) : Prop where
  pending : s.pending = s.tasks.countP Task.isUpdate
  fetches : s.tasks.countP Task.isFetch = s.pager.loading.toNat
  requested : ∀ page, .fetch page ∈ s.tasks → s.pager.abortFetch.nextPage = some page
  latched : Latched s.lifecycle s.tasks

theorem Latched.mono {l m : Lifecycle} {tasks : List Task} (h : Latched l tasks)
    (hl : ∀ a, (l.fired a).toNat ≤ (m.fired a).toNat) : Latched m tasks :=
  fun a task hc => Nat.le_trans (h a task hc) (hl a)

theorem Latched.erase {l : Lifecycle} {tasks : List Task} (h : Latched l tasks) (t : Task) :
    Latched l (tasks.erase t) :=
  fun a task hc => Nat.le_trans (List.erase_sublist.count_le _) (h a task hc)

/-- Fetches and updates are under no latch. -/
theorem Latched.snoc {l : Lifecycle} {tasks : List Task} (h : Latched l tasks) {t : Task}
    (ht : t.isUpdate = true ∨ t.isFetch = true) : Latched l (tasks ++ [t]) := by
  intro a task hc
  have hn : t ≠ task := by
    rintro rfl
    obtain ⟨hu, hf⟩ := Action.call?_eq_some hc
    rcases ht with ht | ht
    · rw [hu] at ht; cases ht
    · rw [hf] at ht; cases ht
  rw [List.count_append, List.count_singleton, beq_eq_false_iff_ne.mpr hn]
  exact h a task hc

/-- A call is made when its latch closes, and so only once. -/
theorem Latched.call {l : Lifecycle} {tasks : List Task} (h : Latched l tasks) {t : Trigger}
    {a : Action} {task : Task} (ha : (l.apply t).2 = some a) (hc : a.call? = some task) :
    Latched (l.apply t).1 (tasks ++ [task]) := by
  intro b other hb
  have hold := h b other hb
  by_cases he : task = other
  · subst he
    obtain rfl := Action.call?_inj hc hb
    rw [Lifecycle.apply_fresh ha] at hold
    rw [(l.apply_fired t a).mpr (Or.inr ha), List.count_append, List.count_singleton_self]
    exact Nat.succ_le_succ hold
  · rw [List.count_append, List.count_singleton, beq_eq_false_iff_ne.mpr he]
    exact Nat.le_trans hold (l.fired_le_apply t b)

namespace Accounted

variable {s : Running}

/-- A fetch is outstanding just while the pager loads. -/
theorem loading_iff (h : Accounted s) :
    s.pager.loading = true ↔ ∃ page, Task.fetch page ∈ s.tasks := by
  have hf := h.fetches
  constructor
  · intro hl
    have hpos : 0 < s.tasks.countP Task.isFetch := by rw [hf, hl]; exact Nat.one_pos
    obtain ⟨t, ht, hp⟩ := List.countP_pos_iff.mp hpos
    cases t with
    | fetch page => exact ⟨page, ht⟩
    | train | rank | flag _ | refresh _ => cases hp
  · rintro ⟨page, hm⟩
    have := List.countP_pos_iff (p := Task.isFetch).mpr ⟨_, hm, rfl⟩
    cases hb : s.pager.loading with
    | true => rfl
    | false => rw [hf, hb] at this; cases this

/-- The number of an outstanding fetch comes right after the cursor. -/
theorem requested_toNat (h : Accounted s) {page : UInt32} (hm : .fetch page ∈ s.tasks) :
    page.toNat = s.pager.currentPage.toNat + 1 :=
  (Pager.nextPage_eq_some (h.requested page hm)).2.2

/-- The counter is not at zero while an update is outstanding. -/
theorem pending_pos (h : Accounted s) {t : Task} (hm : t ∈ s.tasks) (ht : t.isUpdate = true) :
    0 < s.pending := by
  rw [h.pending]; exact List.countP_pos_iff.mpr ⟨t, hm, ht⟩

/-! ## What an input does to them -/

theorem init (route : Query.Route) : Accounted (.init route) :=
  ⟨rfl, rfl, fun _ h => (List.not_mem_nil h).elim, fun _ _ _ => Nat.zero_le _⟩

theorem flagging (h : Accounted s) (index : Nat) (item : Item) :
    Accounted (s.flagging index item) where
  pending := by simp [Running.flagging, h.pending, Task.isUpdate]
  fetches := by simpa [Running.flagging, Task.isFetch] using h.fetches
  requested page hm := by
    simp only [Running.flagging, List.mem_append, List.mem_singleton, reduceCtorEq, or_false] at hm
    exact h.requested page hm
  latched := h.latched.snoc (Or.inl rfl)

theorem begin_fetch (h : Accounted s) {l : Lifecycle} {page : UInt32}
    (hl : ∀ a, (s.lifecycle.fired a).toNat ≤ (l.fired a).toNat)
    (hp : s.pager.nextPage = some page) (v : View) :
    Accounted { s with
      lifecycle := l, view := v, pager := { s.pager with loading := true }
      tasks := s.tasks ++ [.fetch page] } := by
  have hidle := (Pager.nextPage_eq_some hp).1
  have hf := h.fetches
  rw [hidle] at hf
  refine ⟨by simp [h.pending, Task.isUpdate], by simp [hf, Task.isFetch], ?_,
    (h.latched.mono hl).snoc (Or.inr rfl)⟩
  intro other hm
  rcases List.mem_append.mp hm with hm | hm
  · exact absurd rfl (List.countP_eq_zero.mp hf _ hm)
  · simp only [List.mem_singleton, Task.fetch.injEq] at hm
    rw [hm, ← hp]
    exact congrArg _ (Pager.abortFetch_of_idle hidle)

/-- After the answer to a fetch no fetch is outstanding. -/
theorem answered_fetch (h : Accounted s) {requested : UInt32}
    (hm : .fetch requested ∈ s.tasks) (v : View) {p : Pager} (hp : p.loading = false) :
    Accounted { s with view := v, pager := p, tasks := s.tasks.erase (.fetch requested) } := by
  have hf : (s.tasks.erase (.fetch requested)).countP Task.isFetch = 0 := by
    have := countP_erase_add (p := Task.isFetch) hm
    have hone : (Task.isFetch (.fetch requested)).toNat = 1 := rfl
    have hle := s.pager.loading.toNat_le
    have := h.fetches
    omega
  refine ⟨?_, by rw [hf, hp]; rfl, ?_, h.latched.erase _⟩
  · rw [h.pending, ← countP_erase_add hm]; rfl
  · intro page hpage
    exact absurd rfl (List.countP_eq_zero.mp hf _ hpage)

/-- After the last answer to an update one update fewer is outstanding. -/
theorem settled_update (h : Accounted s) {t : Task} (hm : t ∈ s.tasks) (ht : t.isUpdate = true)
    (v : View) {p : Pager} (hp : p.loading = s.pager.loading)
    (hn : p.abortFetch.nextPage = s.pager.abortFetch.nextPage) :
    Accounted { s with
      view := v, pager := p, pending := s.pending - 1, tasks := s.tasks.erase t } := by
  have hf : t.isFetch = false := by cases t <;> first | rfl | cases ht
  refine ⟨?_, ?_, ?_, h.latched.erase _⟩
  · have := countP_erase_add (p := Task.isUpdate) hm
    rw [ht, ← h.pending] at this
    exact (Nat.eq_sub_of_add_eq this).symm
  · have := countP_erase_add (p := Task.isFetch) hm
    rw [hf, h.fetches] at this
    rw [hp]; exact this
  · intro page hpage
    rw [hn]; exact h.requested page (List.mem_of_mem_erase hpage)

theorem react (h : Accounted s) {i : Input} {s' : Running} {started : List Task}
    (ha : s.Accepts i) (hr : s.Reacts i s' started) : Accounted s' := by
  cases hr with
  | shown v _ _ => exact ⟨h.pending, h.fetches, h.requested, h.latched⟩
  | heard v _ _ _ =>
    exact ⟨h.pending, h.fetches, h.requested, h.latched.mono (s.lifecycle.fired_le_apply _)⟩
  | call v _ _ hact hc =>
    obtain ⟨hu, hf⟩ := Action.call?_eq_some hc
    refine ⟨by simp [h.pending, hu], by simp [h.fetches, hf], ?_, h.latched.call hact hc⟩
    intro page hm
    rcases List.mem_append.mp hm with hm | hm
    · exact h.requested page hm
    · rw [← List.mem_singleton.mp hm] at hf; cases hf
  | fetch v _ hl hp =>
    refine h.begin_fetch (fun a => ?_) hp v
    rcases hl with ⟨t, _, ht⟩ | ⟨_, rfl⟩
    · have := s.lifecycle.fired_le_apply t a; rwa [ht] at this
    · exact Nat.le_refl _
  | flags v _ =>
    exact Running.startFlags_induction (P := fun s _ => Accounted s) _
      ⟨h.pending, h.fetches, h.requested, h.latched⟩ fun _ _ index item _ ih =>
        ih.flagging index item
  | @called a v hcall =>
    have hu : a.task.isUpdate = false := by rcases hcall with hc | hc <;> rw [hc] <;> rfl
    have hf : a.task.isFetch = false := by rcases hcall with hc | hc <;> rw [hc] <;> rfl
    refine ⟨?_, ?_, fun page hm => h.requested page (List.mem_of_mem_erase hm), h.latched.erase _⟩
    · rw [h.pending, ← countP_erase_add ha, hu]; rfl
    · rw [← h.fetches, ← countP_erase_add ha, hf]; rfl
  | loaded requested page => exact h.answered_fetch ha s.view (by simp)
  | missed requested fault v => exact h.answered_fetch ha v rfl
  | accepted patch u =>
    -- one task of the update makes room for the other
    refine ⟨?_, ?_, ?_, (h.latched.erase _).snoc (Or.inl rfl)⟩
    · rw [h.pending, ← countP_erase_add (p := Task.isUpdate) ha, List.countP_append]; rfl
    · rw [← h.fetches, ← countP_erase_add (p := Task.isFetch) ha, List.countP_append]; rfl
    · intro page hm
      simp only [List.mem_append, List.mem_singleton, reduceCtorEq, or_false] at hm
      exact h.requested page (List.mem_of_mem_erase hm)
  | refused patch fault v =>
    exact h.settled_update ha rfl v (by simp) (Pager.nextPage_congr rfl (by simp [Pager.abortFetch])
      (by simp [Pager.abortFetch]))
  | confirmed patch result precision =>
    exact h.settled_update ha rfl s.view (by simp) (Pager.nextPage_congr rfl
      (by simp [Pager.abortFetch]) (by simp [Pager.abortFetch]))

end Accounted

theorem Running.Runs.accounted {s t : Running} {history : List Event} (r : s.Runs history t)
    (h : Accounted s) : Accounted t :=
  r.invariant h (fun h => h.react) fun _ h => ⟨h.pending, h.fetches, h.requested, h.latched⟩

theorem Run.accounted {route : Query.Route} {history : List Event} {s : Running}
    (r : Run route history s) : Accounted s :=
  Running.Runs.accounted r (Accounted.init route)

/-- What a session has published last says what is in flight. -/
theorem Run.published {route : Query.Route} {history : List Event} {s : Running}
    (r : Run route history s) :
    s.view.pendingUpdates = s.pending ∧ s.view.loadingPage = s.pager.loading := by
  cases r with
  | refl => exact ⟨rfl, rfl⟩
  | step i r h => exact ⟨rfl, rfl⟩

/-- **The records of what is in flight agree.** After every run the counter is the number of marks
on their way, the pager loads just while a page is fetched, which is one page and the one after the
cursor, training and ranking are each asked for at most once, and the view that was published last
says so. The counter is above zero whenever an answer brings it down. -/
theorem Run.records_agree {route : Query.Route} {history : List Event} {s : Running}
    (r : Run route history s) :
    s.pending = s.tasks.countP Task.isUpdate ∧
    (s.pager.loading = true ↔ ∃ page, Task.fetch page ∈ s.tasks) ∧
    s.tasks.countP Task.isFetch ≤ 1 ∧
    (∀ page, Task.fetch page ∈ s.tasks →
      page.toNat = if s.pager.currentPage = 0 then 1 else s.pager.currentPage.toNat + 1) ∧
    s.tasks.count .train ≤ 1 ∧ s.tasks.count .rank ≤ 1 ∧
    s.view.pendingUpdates = s.tasks.countP Task.isUpdate ∧
    (s.view.loadingPage = true ↔ ∃ page, Task.fetch page ∈ s.tasks) ∧
    ∀ a, s.Accepts (.answered a) → a.task.isUpdate = true → 0 < s.pending := by
  have h := Run.accounted r
  obtain ⟨hpending, hloading⟩ := Run.published r
  refine ⟨h.pending, h.loading_iff, h.fetches ▸ s.pager.loading.toNat_le, fun page hm => ?_,
    Nat.le_trans (h.latched .beginTraining _ rfl) (Bool.toNat_le _),
    Nat.le_trans (h.latched .beginRanking _ rfl) (Bool.toNat_le _),
    hpending.trans h.pending, hloading ▸ h.loading_iff, fun a ha hu => h.pending_pos ha hu⟩
  rw [h.requested_toNat hm]
  split
  · rename_i hz; rw [hz]; rfl
  · rfl

/-- A training call, a mark and a fetch in flight at once. -/
theorem Run.records_agree_in_flight :
    ∃ history s, Run sampleRoute history s ∧
      s.tasks = [.train, .flag ⟨0, "a.jpg", false⟩, .fetch 2] ∧
      s.pending = s.tasks.countP Task.isUpdate ∧
      (s.pager.loading = true ↔ ∃ page, Task.fetch page ∈ s.tasks) := by
  have h : (Running.init sampleRoute).replay
      [.notified ⟨sampleRoute.id, .stage .dataCollectionComplete⟩,
        .notified ⟨sampleRoute.id, .stage .ranked⟩,
        .answered (.fetched 1 (.ok (samplePage 1 3 "a.jpg"))), .command (.mark 0),
        .command .loadMore] = some (_, _) := rfl
  have r : Run sampleRoute _ _ := .of_replay h
  exact ⟨_, _, r, rfl, (Run.records_agree r).1, (Run.records_agree r).2.1⟩

end RankedSearch.Session
