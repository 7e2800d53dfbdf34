import RankedSearch.Proofs.Session.Outstanding
import RankedSearch.Proofs.Session.Published

/-! # What a session does by itself

A session that nobody sends commands to makes three calls: it asks for training, for ranking and for
the first page, each when its lifecycle says so. What one input makes it do is said here in terms of
that action alone. -/
namespace RankedSearch.Session

/-- The call that an action makes in a session which has loaded nothing. -/
def Action.errand : Action → Task
  | .beginTraining => .train
  | .beginRanking => .rank
  | .fetchFirstPage => .fetch 1

/-- The errands are told apart by what they ask of the service. -/
theorem Action.kind_errand_inj {a b : Action} {id : Query.Id}
    (h : (a.errand.request id).kind = (b.errand.request id).kind) : a = b := by
  cases a <;> cases b <;> first | rfl | cases h

theorem Action.request_errand_inj {a b : Action} {id : Query.Id}
    (h : a.errand.request id = b.errand.request id) : a = b :=
  Action.kind_errand_inj (congrArg Service.Request.kind h)

theorem Action.count_request_errand (asked : Option Action) (a : Action) (id : Query.Id) :
    ((asked.map errand).toList.map (·.request id)).count (a.errand.request id) =
      if asked = some a then 1 else 0 := by
  cases asked with
  | none => rfl
  | some b =>
    have hsame : (b.errand.request id == a.errand.request id) = decide (some b = some a) := by
      rw [Bool.eq_iff_iff, beq_iff_eq, decide_eq_true_iff, Option.some.injEq]
      exact ⟨request_errand_inj, fun he => by rw [he]⟩
    simp [List.count_singleton, hsame]

/-! ## Lifecycles -/

namespace Lifecycle

theorem fired_apply_of_ne {l : Lifecycle} {t : Trigger} {a : Action} (h : (l.apply t).2 ≠ some a) :
    (l.apply t).1.fired a = l.fired a := by
  rw [Bool.eq_iff_iff, apply_fired]
  exact or_iff_left h

/-- A latch counts how often its action was asked for. -/
theorem toNat_fired_apply (l : Lifecycle) (t : Trigger) (a : Action) :
    ((l.apply t).1.fired a).toNat =
      (l.fired a).toNat + if (l.apply t).2 = some a then 1 else 0 := by
  by_cases ha : (l.apply t).2 = some a
  · rw [(l.apply_fired t a).mpr (Or.inr ha), apply_fresh ha, if_pos ha]
    rfl
  · rw [fired_apply_of_ne ha, if_neg ha, Nat.add_zero]

/-- Either nothing has happened yet, or training was asked for and the timer is of no more use. -/
def Timed (l : Lifecycle) : Prop := l = {} ∨ l.timerArmed = false ∧ l.trainingFired = true

/-- Training is asked for before a stage past data collection is reported, so that the timer is not
taken away from a session that still needs it. -/
theorem Timed.report {l : Lifecycle} (h : l.Timed) {stage : Stage}
    (hstage : stage ≤ .dataCollectionComplete ∨ l.trainingFired = true) :
    (l.apply (.stageReported stage)).1.Timed := by
  rcases h with rfl | ⟨htimer, hfired⟩
  · have hearly : stage ≤ .dataCollectionComplete := hstage.resolve_right Bool.false_ne_true
    cases stage with
    | dataCollecting => exact Or.inl rfl
    | dataCollectionComplete => exact Or.inr ⟨rfl, rfl⟩
    | training | trained | ranking | ranked => exact absurd hearly (by decide)
  · refine Or.inr ⟨?_, (l.apply_fired _ .beginTraining).mpr (Or.inl hfired)⟩
    rw [apply_timerArmed, htimer, Bool.false_and]

theorem Timed.passDeadline {l : Lifecycle} (h : l.Timed) : (l.apply .deadlinePassed).1.Timed := by
  rcases h with rfl | ⟨htimer, hfired⟩
  · exact Or.inr ⟨rfl, rfl⟩
  · refine Or.inr ⟨?_, (l.apply_fired _ .beginTraining).mpr (Or.inl hfired)⟩
    rw [apply_timerArmed, htimer, Bool.false_and]

/-- A report closes the latch that waits for its stage, and leaves the others. -/
theorem report_fired (l : Lifecycle) (stage : Stage) :
    (l.apply (.stageReported stage)).1.rankingFired =
        (l.rankingFired || decide (stage = .trained)) ∧
      (l.apply (.stageReported stage)).1.firstPageFired =
        (l.firstPageFired || decide (stage = .ranked)) := by
  have hranking := l.apply_fired_eq (.stageReported stage) (a := .beginRanking) nofun
  have hpage := l.apply_fired_eq (.stageReported stage) (a := .fetchFirstPage) nofun
  simp only [Trigger.stageReported.injEq] at hranking hpage
  exact ⟨hranking, hpage⟩

/-- How many actions the lifecycle can still ask for. -/
def toAsk (l : Lifecycle) : Nat :=
  (!l.fired .beginTraining).toNat + (!l.fired .beginRanking).toNat +
    (!l.fired .fetchFirstPage).toNat

theorem timerArmed_passDeadline (l : Lifecycle) :
    (l.apply .deadlinePassed).1.timerArmed = false :=
  (l.apply_timerArmed .deadlinePassed).trans (Bool.and_false _)

/-- No trigger sets the timer again. -/
theorem toNat_timerArmed_apply_le (l : Lifecycle) (t : Trigger) :
    (l.apply t).1.timerArmed.toNat ≤ l.timerArmed.toNat := by
  rw [apply_timerArmed]
  cases l.timerArmed with
  | true => exact Bool.toNat_le _
  | false => exact Nat.le_refl _

theorem passDeadline_fired (l : Lifecycle) :
    (l.apply .deadlinePassed).1.rankingFired = l.rankingFired ∧
      (l.apply .deadlinePassed).1.firstPageFired = l.firstPageFired :=
  ⟨(l.apply_fired_eq .deadlinePassed (a := .beginRanking) nofun).trans (Bool.or_false _),
    (l.apply_fired_eq .deadlinePassed (a := .fetchFirstPage) nofun).trans (Bool.or_false _)⟩

end Lifecycle

/-! ## Sessions -/

namespace Running

variable {s s' : Running} {i : Input} {started : List Task}

/-- The action that an input makes the lifecycle ask for. -/
def asks (s : Running) (i : Input) : Option Action :=
  (s.trigger? i).bind fun t => (s.lifecycle.apply t).2

theorem Reacts.toNat_fired (h : s.Reacts i s' started) (a : Action) :
    (s'.lifecycle.fired a).toNat =
      (s.lifecycle.fired a).toNat + if s.asks i = some a then 1 else 0 := by
  rw [h.lifecycle_eq, asks]
  cases s.trigger? i with
  | none => simp
  | some t => exact s.lifecycle.toNat_fired_apply t a

theorem Reacts.fired_eq (h : s.Reacts i s' started) {a : Action} (ha : s.asks i ≠ some a) :
    s'.lifecycle.fired a = s.lifecycle.fired a := by
  rw [h.lifecycle_eq]
  unfold asks at ha
  cases ht : s.trigger? i with
  | none => rfl
  | some t =>
    rw [ht, Option.bind_some] at ha
    exact Lifecycle.fired_apply_of_ne ha

/-- What is asked for once is not asked for again. -/
theorem Reacts.toAsk_eq (h : s.Reacts i s' started) :
    s'.lifecycle.toAsk + (s.asks i).toList.length = s.lifecycle.toAsk := by
  have hopen (l : Lifecycle) (a : Action) : (!l.fired a).toNat + (l.fired a).toNat = 1 := by
    cases l.fired a <;> rfl
  have hasked : (s.asks i).toList.length = (if s.asks i = some .beginTraining then 1 else 0) +
      (if s.asks i = some .beginRanking then 1 else 0) +
      if s.asks i = some .fetchFirstPage then 1 else 0 := by
    cases s.asks i with
    | none => rfl
    | some a => cases a <;> rfl
  have htraining := h.toNat_fired .beginTraining
  have hranking := h.toNat_fired .beginRanking
  have hpage := h.toNat_fired .fetchFirstPage
  have hbefore := And.intro (hopen s.lifecycle .beginTraining)
    (And.intro (hopen s.lifecycle .beginRanking) (hopen s.lifecycle .fetchFirstPage))
  have hafter := And.intro (hopen s'.lifecycle .beginTraining)
    (And.intro (hopen s'.lifecycle .beginRanking) (hopen s'.lifecycle .fetchFirstPage))
  unfold Lifecycle.toAsk
  omega

theorem Reacts.toNat_timerArmed_le (h : s.Reacts i s' started) :
    s'.lifecycle.timerArmed.toNat ≤ s.lifecycle.timerArmed.toNat := by
  rw [h.lifecycle_eq]
  cases s.trigger? i with
  | none => exact Nat.le_refl _
  | some t => exact s.lifecycle.toNat_timerArmed_apply_le t

/-- What comes from outside makes a session do the errand it asks for, and nothing else. The first
page is the next one of a session that has loaded nothing. -/
theorem Reacts.of_outside (h : s.Reacts i s' started) (hi : i.answer? = none)
    (hc : i.command? = none) (hp : s.asks i = some .fetchFirstPage → s.pager = {}) :
    started = ((s.asks i).map Action.errand).toList ∧
      s'.pager = if s.asks i = some .fetchFirstPage then { loading := true } else s.pager := by
  cases h with
  | shown _ _ ht =>
    have hasks : s.asks i = none := by rw [asks, ht, Option.bind_none]
    simp [hasks]
  | @heard _ t _ _ ht hact =>
    have hasks : s.asks i = (s.lifecycle.apply t).2 := by rw [asks, ht, Option.bind_some]
    rcases hact with hnone | ⟨hfetch, hnext⟩
    · simp [hasks, hnone]
    · rw [hp (hasks.trans hfetch)] at hnext
      cases hnext
  | @call _ t a task _ _ ht hact hcall =>
    have hasks : s.asks i = some a := by rw [asks, ht, Option.bind_some, hact]
    cases a <;> cases hcall <;> simp [hasks, Action.errand]
  | @fetch _ l page _ _ hl hnext =>
    rcases hl with ⟨t, ht, hact⟩ | ⟨rfl, _⟩
    · have hasks : s.asks i = some .fetchFirstPage := by rw [asks, ht, Option.bind_some, hact]
      have hfresh := hp hasks
      rw [hfresh] at hnext
      cases hnext
      simp [hasks, Action.errand, hfresh]
    · cases hc
  | flags => cases hc
  | called | loaded | missed | accepted | refused | confirmed => cases hi

theorem trigger?_stage {n : Notification} {stage : Stage} (hq : n.query = s.query)
    (hn : n.news = .stage stage) : s.trigger? (.notified n) = some (.stageReported stage) := by
  simp [trigger?, hq, hn]

theorem trigger?_other {n : Notification} (hn : ∀ stage, n.news ≠ .stage stage) :
    s.trigger? (.notified n) = none := by
  cases hnews : n.news with
  | stage stage => exact absurd hnews (hn stage)
  | imageProcessed _ | collectionFinished | failure _ => simp [trigger?, hnews]

/-- An answer asks the lifecycle for nothing. -/
theorem Reacts.lifecycle_of_answer {a : Answer} (h : s.Reacts (.answered a) s' started) :
    s'.lifecycle = s.lifecycle := h.lifecycle_eq

/-- The last error is the last complaint. -/
theorem step_lastError (h : s.view.mirror s.lifecycle = s.view) (i : Input) :
    (s.step i).1.view.lastError = (i.complaint? s.query).or s.view.lastError := by
  show (s.react i).1.view.lastError = _
  rw [s.react_view h i, View.heed_eq]
  rfl

end Running

/-- News that are no failure are no complaint. -/
theorem Input.complaint?_notified {id : Query.Id} {n : Notification}
    (hn : ∀ message, n.news ≠ .failure message) : Input.complaint? id (.notified n) = none := by
  unfold complaint?
  by_cases hq : n.query = id
  · have hnews : (Input.notified n).news? id = some n.news := if_pos hq
    rw [hnews]
    cases hkind : n.news with
    | failure message => exact absurd hkind (hn message)
    | stage _ | imageProcessed _ | collectionFinished => rfl
  · have hnews : (Input.notified n).news? id = none := if_neg hq
    rw [hnews]
    rfl

/-! ## The first page -/

/-- The first page is on its way, or it is all that is loaded. -/
def Pager.Opens (paths : List String) (p : Pager) : Prop :=
  p = { loading := true } ∨
    p.loading = false ∧ p.currentPage = 1 ∧ p.items.map (·.path) = paths

theorem Pager.opens_completeFetch {paths : List String} {page : Page} (hnumber : page.number = 1)
    (hpaths : page.items.map (·.path) = paths) :
    (({ loading := true } : Pager).completeFetch 1 page).Opens paths := by
  refine Or.inr ⟨rfl, ?_, hpaths⟩
  show max page.number 1 = 1
  rw [hnumber]
  rfl

end RankedSearch.Session
