import RankedSearch.Proofs.Session.Run

/-! # What a published view says

The view of a session is patched by every input, and its list is copied only when the revision of
the list has moved. `Run.upToDate` says what comes of it: the view is a function of the history, the
lifecycle and the pager. For the list the reason is that whatever changes the items of a pager
raises its revision. -/
namespace RankedSearch.Session

/-! ## What inputs tell -/

/-- The failure that an answer tells of. The reading of fresh figures may fail without a word. -/
def Answer.fault? : Answer → Option Service.Fault
  | .trained (.error fault) | .ranked (.error fault) | .fetched _ (.error fault)
  | .flagged _ (.error fault) => some fault
  | _ => none

namespace Input

/-- The news of a query that an input brings. -/
def news? (id : Query.Id) : Input → Option News
  | .notified n => if n.query = id then some n.news else none
  | _ => none

def stage? (id : Query.Id) (i : Input) : Option Stage :=
  match i.news? id with
  | some (.stage stage) => some stage
  | _ => none

def image? (id : Query.Id) (i : Input) : Option String :=
  match i.news? id with
  | some (.imageProcessed path) => some path
  | _ => none

def finishes (id : Query.Id) (i : Input) : Bool :=
  match i.news? id with
  | some .collectionFinished => true
  | _ => false

/-- What an input complains of: a failure that the service reports, or a call that failed. -/
def complaint? (id : Query.Id) (i : Input) : Option String :=
  match i.news? id with
  | some (.failure message) => some message
  | _ => (i.answer?.bind Answer.fault?).map Service.Fault.message

def command? : Input → Option Command
  | .command c => some c
  | _ => none

end Input

/-- The last thing of a kind that the inputs of a history told. -/
def lastOf {α : Type} (told : Input → Option α) (history : List Event) : Option α :=
  (history.filterMap (told ·.input)).getLast?

/-- The commands that were taken in, in order. -/
def commands (history : List Event) : List Command := history.filterMap (·.input.command?)

/-- The stage of a query as far as it was reported. -/
def stageOf (id : Query.Id) (history : List Event) : Stage :=
  (lastOf (Input.stage? id) history).getD .dataCollecting

theorem lastOf_snoc {α : Type} (told : Input → Option α) (history : List Event) (e : Event) :
    lastOf told (history ++ [e]) = (told e.input).or (lastOf told history) := by
  cases h : told e.input <;> simp [lastOf, h]

theorem commands_snoc (history : List Event) (e : Event) :
    commands (history ++ [e]) = commands history ++ e.input.command?.toList := by
  cases h : e.input.command? <;> simp [commands, h]

theorem stageOf_snoc (id : Query.Id) (history : List Event) (e : Event) :
    stageOf id (history ++ [e]) = (e.input.stage? id).getD (stageOf id history) := by
  rw [stageOf, lastOf_snoc]
  cases e.input.stage? id <;> rfl

/-! ## What an input does to the lifecycle and to the list -/

namespace Running

variable {s s' : Running} {i : Input} {started : List Task}

theorem startFlags_lifecycle (s : Running) (indices : List Nat) :
    (s.startFlags indices).1.lifecycle = s.lifecycle :=
  startFlags_induction (P := fun t _ => t.lifecycle = s.lifecycle) indices rfl
    fun _ _ _ _ _ ih => ih

/-- Marks are shown in the list alone, and that only once the session publishes. -/
theorem startFlags_view (s : Running) (indices : List Nat) :
    (s.startFlags indices).1.view = s.view ∧
      (s.startFlags indices).1.publishedRevision = s.publishedRevision :=
  startFlags_induction (P := fun t _ => t.view = s.view ∧ t.publishedRevision = s.publishedRevision)
    indices ⟨rfl, rfl⟩ fun _ _ _ _ _ ih => ih

/-- The lifecycle moves by what it is told. -/
theorem Reacts.lifecycle_eq (h : s.Reacts i s' started) :
    s'.lifecycle = (s.trigger? i).elim s.lifecycle fun t => (s.lifecycle.apply t).1 := by
  cases h with
  | shown _ _ ht | heard _ _ ht _ | call _ _ ht _ _ => rw [ht]; rfl
  | fetch _ _ hl _ =>
    rcases hl with ⟨t, ht, ha⟩ | ⟨rfl, rfl⟩
    · rw [ht, Option.elim_some, ha]
    · rfl
  | flags v _ => exact startFlags_lifecycle _ _
  | called | loaded | missed | accepted | refused | confirmed => rfl

theorem stage?_eq_trigger? (s : Running) (i : Input) :
    i.stage? s.query =
      match s.trigger? i with
      | some (.stageReported stage) => some stage
      | _ => none := by
  cases i with
  | notified n =>
    unfold Input.stage? Input.news? trigger?
    by_cases hq : n.query = s.query
    · simp only [if_pos hq]
      cases n.news <;> rfl
    · simp only [if_neg hq]
  | channelClosed | deadlinePassed | command _ | answered _ => rfl

theorem Reacts.stage_eq (h : s.Reacts i s' started) :
    s'.lifecycle.stage = (i.stage? s.query).getD s.lifecycle.stage := by
  rw [h.lifecycle_eq, s.stage?_eq_trigger? i]
  cases s.trigger? i with
  | none => rfl
  | some t =>
    rw [Option.elim_some, Lifecycle.stage_apply]
    cases t <;> rfl

end Running

/-- The list of a pager is as it was, or its revision has gone up. -/
def Pager.Revised (p q : Pager) : Prop :=
  q.items = p.items ∧ q.revision = p.revision ∨ p.revision < q.revision

namespace Pager.Revised

theorem refl (p : Pager) : p.Revised p := Or.inl ⟨rfl, rfl⟩

theorem trans {p q r : Pager} (h : p.Revised q) (h' : q.Revised r) : p.Revised r := by
  rcases h with ⟨hi, hr⟩ | hlt
  · rcases h' with ⟨hi', hr'⟩ | hlt'
    · exact Or.inl ⟨hi'.trans hi, hr'.trans hr⟩
    · exact Or.inr (hr ▸ hlt')
  · rcases h' with ⟨_, hr'⟩ | hlt'
    · exact Or.inr (hr' ▸ hlt)
    · exact Or.inr (Nat.lt_trans hlt hlt')

theorem setMark (p : Pager) (index : Nat) (value : Bool) : p.Revised (p.setMark index value) :=
  Or.inr (Nat.lt_succ_self _)

theorem revert (p : Pager) (patch : Patch) : p.Revised (p.revert patch) := by
  rcases p.revert_eq_or patch with h | h <;> rw [h]
  · exact setMark ..
  · exact refl p

theorem confirmed (p : Pager) (patch : Patch) (precision : Option Precision) :
    p.Revised (p.settle patch (.confirmed precision)) := by
  cases precision <;> exact Or.inl ⟨rfl, rfl⟩

theorem completeFetch (p : Pager) (requested : UInt32) (page : Page) :
    p.Revised (p.completeFetch requested page) := by
  unfold Pager.completeFetch
  dsimp only
  split
  · exact Or.inl ⟨rfl, rfl⟩
  · exact Or.inr (Nat.lt_succ_self _)

end Pager.Revised

/-- Publishing copies the list whenever it has changed. -/
theorem Running.publish_items {s : Running} {p : Pager} (hr : s.publishedRevision = p.revision)
    (hi : s.view.items = p.items) (h : p.Revised s.pager) :
    s.publish.view.items = s.pager.items := by
  show (if s.pager.revision = s.publishedRevision then s.view.items else s.pager.items) = _
  rw [hr, hi]
  split
  · rename_i hsame
    rcases h with ⟨hitems, _⟩ | hlt
    · exact hitems.symm
    · exact absurd hsame (Nat.ne_of_gt hlt)
  · rfl

theorem Running.Reacts.revised {s s' : Running} {i : Input} {started : List Task}
    (h : s.Reacts i s' started) : s.pager.Revised s'.pager := by
  cases h with
  | shown | heard | call | called | accepted => exact .refl _
  | fetch | missed => exact Or.inl ⟨rfl, rfl⟩
  | flags v _ =>
    exact startFlags_induction (P := fun t _ => s.pager.Revised t.pager) _ (.refl _)
      fun t _ index _ _ ih => ih.trans (.setMark t.pager index true)
  | loaded requested page => exact .completeFetch ..
  | refused patch _ _ => exact .revert ..
  | confirmed patch _ precision => exact .confirmed ..

/-! ## What an input does to the view -/

namespace View

def hear (v : View) : News → View
  | .stage _ => v
  | .imageProcessed path => { v with lastProcessed := some path }
  | .collectionFinished => { v with collectionFinished := true }
  | .failure message => { v with lastError := some message }

/-- What an input tells the view by itself. -/
def heed (v : View) : Input → View
  | .notified n => if n.query = v.query then v.hear n.news else v
  | .channelClosed | .deadlinePassed => v
  | .command _ => { v with commandsHandled := v.commandsHandled + 1 }
  | .answered a =>
    match a.fault? with
    | some fault => { v with lastError := some fault.message }
    | none => v

/-- The view with what it shows of a lifecycle. -/
def mirror (v : View) (l : Lifecycle) : View :=
  { v with
    stage := l.stage
    trainingRequested := l.trainingFired
    rankingRequested := l.rankingFired }

theorem mirror_heed (v : View) (i : Input) (l : Lifecycle) :
    (v.heed i).mirror l = (v.mirror l).heed i := by
  cases i with
  | notified n =>
    by_cases hq : n.query = v.query
    · have hq' : n.query = (v.mirror l).query := hq
      rw [heed, heed, if_pos hq, if_pos hq']
      cases n.news <;> rfl
    · have hq' : n.query ≠ (v.mirror l).query := hq
      rw [heed, heed, if_neg hq, if_neg hq']
  | channelClosed | deadlinePassed | command _ => rfl
  | answered a => unfold heed; dsimp only; cases a.fault? <;> rfl

/-- The same, one field at a time. -/
theorem heed_eq (v : View) (i : Input) :
    v.heed i = { v with
      lastProcessed := (i.image? v.query).or v.lastProcessed
      collectionFinished := v.collectionFinished || i.finishes v.query
      lastError := (i.complaint? v.query).or v.lastError
      commandsHandled := v.commandsHandled + i.command?.toList.length } := by
  cases i with
  | notified n =>
    by_cases hq : n.query = v.query
    · have hnews : (Input.notified n).news? v.query = some n.news := if_pos hq
      simp only [heed, if_pos hq, Input.image?, Input.finishes, Input.complaint?, hnews]
      cases n.news <;> simp [hear, Input.command?, Input.answer?]
    · have hnews : (Input.notified n).news? v.query = none := if_neg hq
      simp [heed, hq, Input.image?, Input.finishes, Input.complaint?, hnews, Input.command?,
        Input.answer?]
  | channelClosed | deadlinePassed | command _ =>
    simp [heed, Input.image?, Input.finishes, Input.complaint?, Input.news?, Input.command?,
      Input.answer?]
  | answered a =>
    have hnews : (Input.answered a).news? v.query = none := rfl
    unfold heed
    cases hf : a.fault? <;>
      simp [Input.image?, Input.finishes, Input.complaint?, hnews, Input.command?, Input.answer?,
        hf]

end View

namespace Running

variable {s : Running}

theorem requestPage_view (s : Running) : s.requestPage.1.view = s.view := by
  rcases s.requestPage_cases with ⟨_, h⟩ | ⟨_, _, h⟩ <;> rw [h]

/-- A trigger shows in what the view mirrors, and in nothing else. -/
theorem onTrigger_view (h : s.view.mirror s.lifecycle = s.view) (t : Trigger) :
    (s.onTrigger t).1.view = s.view.mirror (s.lifecycle.apply t).1 := by
  have htraining := s.lifecycle.apply_fired t .beginTraining
  have hranking := s.lifecycle.apply_fired t .beginRanking
  have hview := congrArg (fun v => (v.trainingRequested, v.rankingRequested)) h
  simp only [View.mirror, Prod.mk.injEq] at hview
  unfold onTrigger
  rcases ha : s.lifecycle.apply t with ⟨l, action⟩
  rw [ha] at htraining hranking
  simp only [Lifecycle.fired, hview] at htraining hranking
  cases action with
  | none =>
    simp only [reduceCtorEq, or_false] at htraining hranking
    simp [View.mirror, Bool.eq_iff_iff.mpr htraining, Bool.eq_iff_iff.mpr hranking]
  | some action =>
    cases action with
    | beginTraining =>
      simp only [or_true, iff_true, Option.some.injEq, reduceCtorEq, or_false] at htraining hranking
      simp [begin, View.mirror, htraining, Bool.eq_iff_iff.mpr hranking]
    | beginRanking =>
      simp only [or_true, iff_true, Option.some.injEq, reduceCtorEq, or_false] at htraining hranking
      simp [begin, View.mirror, hranking, Bool.eq_iff_iff.mpr htraining]
    | fetchFirstPage =>
      simp only [Option.some.injEq, reduceCtorEq, or_false] at htraining hranking
      dsimp only
      rw [requestPage_view]
      simp [View.mirror, Bool.eq_iff_iff.mpr htraining, Bool.eq_iff_iff.mpr hranking]

/-- Without a trigger nothing shows but what the input tells. -/
theorem react_view_of_untriggered {i : Input} (ht : s.trigger? i = none) :
    (s.react i).1.view = s.view.heed i := by
  cases i with
  | notified n =>
    by_cases hq : n.query = s.query
    · rw [react, if_pos hq]
      show _ = if n.query = s.query then _ else _
      rw [if_pos hq]
      cases hn : n.news with
      | stage stage => simp [trigger?, hq, hn] at ht
      | imageProcessed _ | collectionFinished | failure _ => rfl
    · rw [react, if_neg hq]
      exact (if_neg hq).symm
  | channelClosed => rfl
  | deadlinePassed => cases ht
  | command c =>
    cases c with
    | loadMore => exact requestPage_view _
    | mark index =>
      show (startFlag _ index).1.view = _
      unfold startFlag
      split <;> rfl
    | markTailDistractors => exact (startFlags_view _ _).1
  | answered a =>
    cases a with
    | trained result | ranked result | fetched _ result | flagged _ result | refreshed _ result =>
      cases result <;> rfl

theorem react_view_of_trigger {i : Input} {t : Trigger} (ht : s.trigger? i = some t) :
    (s.react i).1.view = (s.onTrigger t).1.view ∧ s.view.heed i = s.view := by
  cases i with
  | notified n =>
    by_cases hq : n.query = s.query
    · cases hn : n.news with
      | stage stage =>
        simp only [trigger?, if_pos hq, hn, Option.some.injEq] at ht
        subst ht
        have hheed : s.view.heed (.notified n) = s.view.hear n.news := if_pos hq
        rw [react, if_pos hq, hheed, hn]
        exact ⟨rfl, rfl⟩
      | imageProcessed _ | collectionFinished | failure _ => simp [trigger?, hn] at ht
    · simp [trigger?, hq] at ht
  | deadlinePassed => cases ht; exact ⟨rfl, rfl⟩
  | channelClosed | command _ | answered _ => cases ht

/-- **What an input does to the view.** -/
theorem react_view (h : s.view.mirror s.lifecycle = s.view) (i : Input) :
    (s.react i).1.view = (s.view.heed i).mirror (s.react i).1.lifecycle := by
  rw [(s.reacts i).lifecycle_eq]
  cases ht : s.trigger? i with
  | none => rw [react_view_of_untriggered ht, Option.elim_none, View.mirror_heed, h]
  | some t =>
    obtain ⟨hview, hheed⟩ := react_view_of_trigger ht
    rw [hview, onTrigger_view h, hheed, Option.elim_some]

theorem Reacts.publishedRevision_eq {s' : Running} {i : Input} {started : List Task}
    (h : s.Reacts i s' started) : s'.publishedRevision = s.publishedRevision := by
  cases h with
  | flags v _ => exact (startFlags_view _ _).2
  | shown | heard | call | fetch | called | loaded | missed | accepted | refused | confirmed => rfl

end Running

/-! ## What a run shows -/

/-- The view of a session after a history. -/
def viewOf (route : Query.Route) (history : List Event) (s : Running) : View where
  route
  stage := stageOf route.id history
  lastProcessed := lastOf (Input.image? route.id) history
  collectionFinished := history.any (·.input.finishes route.id)
  trainingRequested := s.lifecycle.trainingFired
  rankingRequested := s.lifecycle.rankingFired
  items := s.pager.items
  currentPage := s.pager.currentPage
  pageCount := s.pager.pageCount
  visited := s.pager.visited
  precision := s.pager.precision
  pendingUpdates := s.pending
  loadingPage := s.pager.loading
  lastError := lastOf (Input.complaint? route.id) history
  commandsHandled := (commands history).length
  closed := false

/-- The view of a session that has just published. -/
structure UpToDate (route : Query.Route) (history : List Event) (s : Running) : Prop where
  view : s.view = viewOf route history s
  stage : s.lifecycle.stage = stageOf route.id history
  revision : s.publishedRevision = s.pager.revision

namespace UpToDate

variable {route : Query.Route} {history : List Event} {s : Running}

theorem query_eq (h : UpToDate route history s) : s.query = route.id := by
  rw [Running.query, h.view]; rfl

theorem mirror_eq (h : UpToDate route history s) : s.view.mirror s.lifecycle = s.view := by
  rw [View.mirror, h.view, h.stage]; rfl

theorem step (h : UpToDate route history s) (i : Input) :
    UpToDate route (history ++ [⟨i, (s.step i).2⟩]) (s.step i).1 := by
  have hstage : (s.react i).1.lifecycle.stage =
      stageOf route.id (history ++ [⟨i, (s.step i).2⟩]) := by
    rw [(s.reacts i).stage_eq, stageOf_snoc, h.stage, h.query_eq]
  refine ⟨?_, hstage, rfl⟩
  have hr := s.reacts i
  have hquery : s.view.query = route.id := h.query_eq
  have hview := s.react_view h.mirror_eq i
  rw [View.heed_eq, hquery, h.view] at hview
  have hitems : (s.react i).1.publish.view.items = (s.react i).1.pager.items :=
    Running.publish_items (hr.publishedRevision_eq.trans h.revision) (congrArg View.items hview)
      hr.revised
  rw [Running.step_fst]
  simp only [Running.publish, viewOf] at hitems ⊢
  rw [hitems, hview]
  simp [View.mirror, hstage, lastOf_snoc, commands_snoc, viewOf]

end UpToDate

/-- **What a session shows.** After every run the published view is a function of the history, the
lifecycle and the pager: the stage and the messages are those that were told last, the list is the
pager's, and each command that was taken in is counted once. -/
theorem Run.upToDate {route : Query.Route} {history : List Event} {s : Running}
    (r : Run route history s) : UpToDate route history s := by
  induction r with
  | refl => exact ⟨rfl, rfl, rfl⟩
  | step i _ _ ih => exact ih.step i

end RankedSearch.Session
