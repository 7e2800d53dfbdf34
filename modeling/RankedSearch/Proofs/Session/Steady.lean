import RankedSearch.Proofs.Session.Published
import RankedSearch.Proofs.Session.Waiting
import RankedSearch.Session.Timeline

/-! # Sessions that nothing brings down

Calls may fail, be late or never come to an end; as long as none of them brings its caller down, a
session runs until its user lets go of it, whatever happens on its clock. Then it ends within the
instant, its release has been called, and who waits for the release waits until it has concluded or
for as long as he means to wait. -/
namespace RankedSearch.Session

open RankedSearch.Service (Conclusion Request)

/-- A call that returns and leaves the service a property. -/
def Harmless {σ α : Type} (P : σ → Prop) (finish : σ → σ × Conclusion α) : Prop :=
  ∀ service, P service → P (finish service).1 ∧ ∃ result, (finish service).2 = .returned result

/-- No call of a service brings its caller down, as long as the service has a property, which it
keeps. -/
structure Steady (σ : Type) [QueryService σ] (P : σ → Prop) : Prop where
  received : ∀ {service : σ} (r : Request), P service → P (QueryService.receive service r).service
  harmless : ∀ {service : σ} (r : Request), P service →
    Harmless P (QueryService.receive service r).conclude

/-- A call that concludes as soon as it is received leaves the service its property. -/
theorem Steady.called {σ : Type} [QueryService σ] {P : σ → Prop} (hσ : Steady σ P)
    {service service' : σ} {r : Request} {conclusion : Conclusion (Except Service.Fault r.Reply)}
    (hservice : P service)
    (h : (QueryService.receive service r).conclude (QueryService.receive service r).service =
      (service', conclusion)) : P service' := by
  have hkept := (hσ.harmless r hservice _ (hσ.received r hservice)).1
  rwa [h] at hkept

namespace Timeline

variable {σ : Type} {P : σ → Prop} {route : Query.Route} {closing : Bool} {now : Nat}
  {t : Timeline σ}

/-- A session that runs, at an instant. Its user may have let go of it. -/
structure Lasts (P : σ → Prop) (route : Query.Route) (closing : Bool) (now : Nat) (t : Timeline σ) :
    Prop where
  running : ∃ history s, t.status = .running s ∧ UpToDate route history s
  service : P t.service
  calls : ∀ c ∈ t.calls, Harmless P c.finish
  closing : t.closing = closing
  now : t.now = now
  release : t.release = none

namespace Lasts

theorem feed (h : t.Lasts P route closing now) (i : Input) :
    (t.feed i).1.Lasts P route closing now := by
  obtain ⟨history, s, hs, hshown⟩ := h.running
  unfold Timeline.feed
  rw [hs]
  exact { h with running := ⟨_, _, rfl, hshown.step i⟩ }

theorem feedAll (h : t.Lasts P route closing now) (inputs : List Input) :
    (t.feedAll inputs).1.Lasts P route closing now := by
  induction inputs generalizing t with
  | nil => exact h
  | cons i rest ih => exact ih (h.feed i)

theorem feedIfDue (h : t.Lasts P route closing now) :
    (if t.deadlineDue then t.feed .deadlinePassed else (t, [])).1.Lasts P route closing now := by
  split
  · exact h.feed _
  · exact h

theorem conclude (h : t.Lasts P route closing now) {finish : σ → σ × Conclusion Answer}
    (hf : Harmless P finish) : (t.conclude finish).1.Lasts P route closing now := by
  obtain ⟨_, s, hs, _⟩ := h.running
  obtain ⟨hkept, answer, hanswer⟩ := hf t.service h.service
  have hserved : ({ t with service := (finish t.service).1 } : Timeline σ).Lasts P route closing
      now := { h with service := hkept }
  have hconcluded : t.conclude finish =
      ({ t with service := (finish t.service).1 } : Timeline σ).feed (.answered answer) := by
    unfold Timeline.conclude
    simp only [hs, hanswer]
  rw [hconcluded]
  exact hserved.feed _

/-- Moving the clock changes nothing but the instant. -/
theorem setClock (h : t.Lasts P route closing now) (instant : Nat) :
    (t.setClock instant).Lasts P route closing (max now instant) :=
  { h with now := congrArg (max · instant) h.now }

theorem notify (h : t.Lasts P route closing now) (n : Notification) :
    (t.notify n).1.Lasts P route closing now := by
  rcases t.notify_cases n with hsent | hsent
  · rw [hsent]
    exact { h with }
  · rw [hsent]
    exact h

theorem notifyAll (h : t.Lasts P route closing now) (news : List Notification) :
    (news.foldl (fun t n => (t.notify n).1) t).Lasts P route closing now := by
  induction news generalizing t with
  | nil => exact h
  | cons n rest ih => exact ih (h.notify n)

theorem disconnect (h : t.Lasts P route closing now) : t.disconnect.Lasts P route closing now :=
  { h with }

variable [QueryService σ]

theorem launch (hσ : Steady σ P) (h : t.Lasts P route closing now) (task : Task) :
    (t.launch task).1.Lasts P route closing now := by
  obtain ⟨_, s, hs, _⟩ := h.running
  have hreceived := hσ.received (task.request s.query) h.service
  have hfinish : Harmless P fun service =>
      (((QueryService.receive t.service (task.request s.query)).conclude service).1,
        answerOf s.query task
          ((QueryService.receive t.service (task.request s.query)).conclude service).2) := by
    intro service hservice
    obtain ⟨hkept, result, hresult⟩ := hσ.harmless (task.request s.query) h.service service hservice
    exact ⟨hkept, task.answer s.query result, congrArg (answerOf s.query task) hresult⟩
  have hcalled : ({ t with
      service := (QueryService.receive t.service (task.request s.query)).service } :
        Timeline σ).Lasts P route closing now := { h with service := hreceived }
  unfold Timeline.launch
  split
  · rename_i s' hs'
    cases hs.symm.trans hs'
    dsimp only
    split
    · exact hcalled.conclude hfinish
    · refine { hcalled with calls := fun c hc => ?_ }
      rcases List.mem_append.mp hc with hc | hc
      · exact h.calls c hc
      · cases List.mem_singleton.mp hc
        exact hfinish
  · rename_i hstopped
    exact absurd hs (hstopped s)

theorem launchFrom (hσ : Steady σ P) (h : t.Lasts P route closing now) (fuel : Nat)
    (tasks : List Task) : (launchFrom fuel t tasks).Lasts P route closing now := by
  induction fuel generalizing t tasks with
  | zero => exact h
  | succ fuel ih =>
    cases tasks with
    | nil => exact h
    | cons task rest => exact ih (h.launch hσ task) _

theorem launchAll (hσ : Steady σ P) (h : t.Lasts P route closing now) (tasks : List Task) :
    (t.launchAll tasks).Lasts P route closing now := h.launchFrom hσ _ tasks

/-- What has been sent is taken in. If the user has let go of the session, it is shut down then. -/
theorem takeIn (hσ : Steady σ P) (h : t.Lasts P route closing now) :
    ∃ u : Timeline σ, u.Lasts P route closing now ∧
      t.takeIn = if closing then u.shutDown else u := by
  have hinbox : ({ t with inbox := [], queue := [] } : Timeline σ).Lasts P route closing now :=
    { h with }
  have hheard := hinbox.feedAll (t.inbox.map .notified)
  have hdue := hheard.feedIfDue
  have hlaunched (tasks : List Task) := (hdue.feedAll (t.queue.map .command)).launchAll hσ tasks
  have hrest (u : Timeline σ) (hu : u.Lasts P route closing now)
      (ht : t.takeIn = if u.closing then u.shutDown else u) :
      ∃ u : Timeline σ, u.Lasts P route closing now ∧
        t.takeIn = if closing then u.shutDown else u := ⟨u, hu, by rw [ht, hu.closing]⟩
  exact hrest _ (hlaunched _) rfl

theorem concludeAll (hσ : Steady σ P) (h : t.Lasts P route closing now)
    {due : List (Call σ Answer)} (hdue : ∀ c ∈ due, Harmless P c.finish) :
    (due.foldl (fun t c => let (t, more) := t.conclude c.finish; t.launchAll more) t).Lasts P route
      closing now := by
  induction due generalizing t with
  | nil => exact h
  | cons c rest ih =>
    obtain ⟨hc, hrest⟩ := List.forall_mem_cons.mp hdue
    exact ih ((h.conclude hc).launchAll hσ _) hrest

theorem concludeDue (hσ : Steady σ P) (h : t.Lasts P route closing now) :
    t.concludeDue.Lasts P route closing now := by
  have hwaiting : ({ t with
      calls := t.calls.filter fun c => !c.due.any (· ≤ t.now) } : Timeline σ).Lasts P route closing
        now := { h with calls := fun c hc => h.calls c (List.mem_filter.mp hc).1 }
  exact hwaiting.concludeAll hσ fun c hc => h.calls c (List.mem_filter.mp hc).1

/-! ## A session that its user holds on to -/

theorem settle (hσ : Steady σ P) (h : t.Lasts P route false now) :
    t.settle.Lasts P route false now := by
  obtain ⟨u, hu, htaken⟩ := h.takeIn hσ
  have hconcluded : t.takeIn.concludeDue.Lasts P route false now := by
    rw [htaken]
    exact hu.concludeDue hσ
  have hnothing : t.settle = t.takeIn.concludeDue := concludeRelease_of_none hconcluded.release
  rw [hnothing]
  exact hconcluded

theorem elapses (hσ : Steady σ P) {u : Timeline σ} (h : t.Lasts P route false now)
    (hu : t.Elapses u) : ∃ later : Nat, u.Lasts P route false later := by
  have hsettle {v : Timeline σ} :
      (∃ now, v.Lasts P route false now) → ∃ later, v.settle.Lasts P route false later :=
    fun ⟨now, h⟩ => ⟨now, h.settle hσ⟩
  have hclock {v : Timeline σ} (instant : Nat) :
      (∃ now, v.Lasts P route false now) →
        ∃ later, (v.setClock instant).Lasts P route false later :=
    fun ⟨_, h⟩ => ⟨_, h.setClock instant⟩
  exact hu.invariant (P := fun v => ∃ now, v.Lasts P route false now) hsettle hclock ⟨now, h⟩

theorem send (hσ : Steady σ P) (h : t.Lasts P route false now) (c : Command) :
    (t.send c).1.Lasts P route false now := by
  obtain ⟨u, hu, hsent⟩ := t.send_cases c
  have hroom : u.Lasts P route false now := by
    rcases hu with ⟨rfl, _⟩ | rfl
    · exact h
    · exact h.settle hσ
  rcases hsent with ⟨s, _, hsent⟩ | hsent
  · rw [hsent]
    exact { hroom with running := hroom.running }
  · rw [hsent]
    exact hroom

theorem loadMore (hσ : Steady σ P) (h : t.Lasts P route false now) :
    t.loadMore.1.Lasts P route false now := by
  unfold Timeline.loadMore
  split
  · exact h.send hσ _
  · exact h

end Lasts

/-! ## The beginning of a session -/

theorem Lasts.start [QueryService σ] (hσ : Steady σ P) {service : σ} {phrase : Query.Phrase}
    {settings : Settings} (hservice : P service) (h : start service phrase settings = .ok t) :
    ∃ id, t.Lasts P ⟨id, phrase⟩ false t.now := by
  obtain ⟨id, started, handed, _, _, hopening, hsubmission, _, rfl⟩ := start_eq_ok h
  have hhanded := hσ.called (hσ.called hservice hopening) hsubmission
  exact ⟨id, ⟨[], _, rfl, rfl, rfl, rfl⟩, hhanded, nofun, rfl, rfl, rfl⟩

/-! ## The end of a session -/

/-- A session that has ended. Nothing reaches it any more. -/
structure Ended (t : Timeline σ) : Prop where
  status : t.status = .ended
  calls : t.calls = []
  inbox : t.inbox = []
  queue : t.queue = []

namespace Ended

theorem setClock (h : t.Ended) (instant : Nat) : (t.setClock instant).Ended := { h with }

variable [QueryService σ]

theorem takeIn (h : t.Ended) : t.takeIn = t := by
  have hemptied : ({ t with inbox := [], queue := [] } : Timeline σ) = t := by
    obtain ⟨hinbox, hqueue⟩ := And.intro h.inbox h.queue
    cases t
    cases hinbox
    cases hqueue
    rfl
  have hdeadline : ¬t.deadlineDue = true := by
    unfold deadlineDue
    rw [h.status]
    exact Bool.false_ne_true
  have hended : t.shutDown = t := by
    unfold Timeline.shutDown
    rw [h.status]
  unfold Timeline.takeIn
  rw [h.inbox, h.queue, hemptied]
  simp only [List.map_nil, Timeline.feedAll, if_neg hdeadline]
  show (if t.closing = true then t.shutDown else t) = t
  rw [hended, ite_self]

theorem settle (h : t.Ended) : t.settle = t.concludeRelease := by
  have hnone : t.concludeDue = t := by
    have hcalls := h.calls
    unfold Timeline.concludeDue
    cases t
    cases hcalls
    rfl
  unfold Timeline.settle
  rw [h.takeIn, hnone]

theorem elapses {u : Timeline σ} (h : t.Ended) (hu : t.Elapses u) : u.Ended := by
  refine hu.invariant (fun {t} h => ?_) (fun instant h => h.setClock instant) h
  rw [h.settle]
  unfold concludeRelease
  split
  · split
    · exact { h with }
    · exact h
  · exact h

end Ended

variable [QueryService σ]

/-- A session that has ended, and called for its release, at an instant. -/
structure Over (P : σ → Prop) (id : Query.Id) (instant : Nat) (t : Timeline σ) : Prop
    extends t.Ended where
  now : t.now = instant
  /-- The release has been called, and has concluded or is still to conclude. -/
  release : ∃ service, P service ∧
    let reception := QueryService.receive service (.release id)
    (reception.wait = some 0 ∧ t.release = none ∧
        t.service = (reception.conclude reception.service).1 ∨
      reception.wait ≠ some 0 ∧ t.service = reception.service ∧
        t.release = some ⟨reception.wait.map (instant + ·), reception.conclude⟩)

theorem Lasts.shutDown (h : t.Lasts P route closing now) : t.shutDown.Over P route.id now := by
  obtain ⟨_, s, hs, hshown⟩ := h.running
  have hquery : s.close.query = route.id := hshown.query_eq
  unfold Timeline.shutDown
  split
  · rename_i s' hs'
    cases hs.symm.trans hs'
    dsimp only
    rw [hquery]
    split
    · rename_i hwait
      exact ⟨⟨rfl, rfl, rfl, rfl⟩, h.now, t.service, h.service, Or.inl ⟨hwait, h.release, rfl⟩⟩
    · rename_i hwait
      refine ⟨⟨rfl, rfl, rfl, rfl⟩, h.now, t.service, h.service, Or.inr ⟨hwait, rfl, ?_⟩⟩
      rw [← h.now]
  · rename_i hstopped
    exact absurd hs (hstopped s)

/-- A release that has not concluded at once takes longer than the instant. -/
theorem Over.concludeRelease {id : Query.Id} (h : t.Over P id now) : t.concludeRelease = t := by
  obtain ⟨service, _, ⟨_, hnone, _⟩ | ⟨hwait, _, hsome⟩⟩ := h.release
  · exact concludeRelease_of_none hnone
  · have hlater : ((QueryService.receive service (.release id)).wait.map (now + ·)).any
        (· ≤ t.now) = false := by
      rw [h.now]
      cases hw : (QueryService.receive service (.release id)).wait with
      | none => rfl
      | some wait =>
        have hpos : wait ≠ 0 := fun hzero => hwait (hw.trans (congrArg some hzero))
        simp only [Option.map_some, Option.any_some, decide_eq_false_iff_not]
        omega
    exact concludeRelease_of_late hsome hlater

/-- The release of a session that ended at an instant has concluded when it was due, or it has been
waited for as long as there was time. -/
inductive GivenBack (P : σ → Prop) (id : Query.Id) (ended limit : Nat) (t : Timeline σ) : Prop
  | concluded {service : σ} (hservice : P service) {wait : Nat}
      (hwait : (QueryService.receive service (.release id)).wait = some wait)
      (hnow : t.now = ended + wait) (hrelease : t.release = none)
      (hkept : t.service = ((QueryService.receive service (.release id)).conclude
        (QueryService.receive service (.release id)).service).1)
  | waited {service : σ} (hservice : P service)
      (hlate : ∀ wait, (QueryService.receive service (.release id)).wait = some wait → limit < wait)
      (hnow : t.now = ended + limit) (hrelease : t.release.isSome = true)
      (hkept : t.service = (QueryService.receive service (.release id)).service)

namespace Over

variable {id : Query.Id} {limit : Nat}

theorem now_setClock (h : t.Over P id now) {instant : Nat} (hle : now ≤ instant) :
    (t.setClock instant).now = instant := by
  show max t.now instant = instant
  rw [h.now]
  exact Nat.max_eq_right hle

/-- A release that concludes in time is waited for until then. -/
theorem moveTo_due (h : t.Over P id now) {service : σ} (hservice : P service)
    (hkept : t.service = (QueryService.receive service (.release id)).service) {wait : Nat}
    (hwait : (QueryService.receive service (.release id)).wait = some wait)
    (hrelease : t.release = some ⟨some (now + wait),
      (QueryService.receive service (.release id)).conclude⟩) :
    GivenBack P id now limit (t.moveTo (now + wait)) ∧ (t.moveTo (now + wait)).view = t.view := by
  have hnow := h.now_setClock (Nat.le_add_right now wait)
  have hconcluded : t.moveTo (now + wait) =
      { t.setClock (now + wait) with
        service := ((QueryService.receive service (.release id)).conclude t.service).1
        release := none } := by
    refine (h.toEnded.setClock (now + wait)).settle.trans
      (concludeRelease_of_due (t := t.setClock (now + wait)) hrelease ?_)
    exact decide_eq_true (Nat.le_of_eq hnow.symm)
  rw [hconcluded]
  refine ⟨.concluded hservice hwait hnow rfl ?_, rfl⟩
  exact congrArg (fun service' =>
    ((QueryService.receive service (.release id)).conclude service').1) hkept

/-- A release that does not conclude in time is waited for as long as there is time. -/
theorem moveTo_limit (h : t.Over P id now) {service : σ} (hservice : P service)
    (hkept : t.service = (QueryService.receive service (.release id)).service)
    (hlate : ∀ wait, (QueryService.receive service (.release id)).wait = some wait → limit < wait)
    (hrelease : t.release = some ⟨(QueryService.receive service (.release id)).wait.map (now + ·),
      (QueryService.receive service (.release id)).conclude⟩) :
    GivenBack P id now limit (t.moveTo (now + limit)) ∧ (t.moveTo (now + limit)).view = t.view := by
  have hnow := h.now_setClock (Nat.le_add_right now limit)
  have hpending : t.moveTo (now + limit) = t.setClock (now + limit) := by
    refine (h.toEnded.setClock (now + limit)).settle.trans
      (concludeRelease_of_late (t := t.setClock (now + limit)) hrelease ?_)
    rw [hnow]
    cases hwait : (QueryService.receive service (.release id)).wait with
    | none => rfl
    | some wait =>
      have := hlate wait hwait
      rw [Option.map_some, Option.any_some, decide_eq_false_iff_not]
      omega
  rw [hpending]
  exact ⟨.waited hservice hlate hnow (by rw [show (t.setClock _).release = _ from hrelease]; rfl)
    hkept, rfl⟩

end Over

namespace Lasts

/-- Who closes a session gets its last view, and the session is over within the instant. -/
theorem close (hσ : Steady σ P) (h : t.Lasts P route false now) :
    ∃ u : Timeline σ, u.Over P route.id now ∧ t.close = (u, .ok u.view) := by
  have hdropped : t.drop.Lasts P route true now := { h with closing := rfl }
  obtain ⟨u, hu, htaken⟩ := hdropped.takeIn hσ
  rw [if_pos rfl] at htaken
  have hover := hu.shutDown
  have hsettled : t.drop.settle = u.shutDown := by
    have hrest := hover.toEnded.settle
    unfold Timeline.settle at hrest ⊢
    rw [hover.toEnded.takeIn] at hrest
    rw [htaken, hrest, hover.concludeRelease]
  refine ⟨u.shutDown, hover, ?_⟩
  unfold Timeline.close
  rw [hsettled]
  dsimp only
  rw [hover.status]

/-- **Closing waits for the release**, until it has concluded or for as long as the limit says. -/
theorem closeAndRelease (hσ : Steady σ P) (h : t.Lasts P route false now) (limit : Nat) :
    ∃ w : Timeline σ, GivenBack P route.id now limit w ∧
      t.closeAndRelease limit = (w, .ok w.view) := by
  obtain ⟨u, hover, hclose⟩ := h.close hσ
  unfold Timeline.closeAndRelease
  rw [hclose]
  dsimp only
  obtain ⟨service, hservice, ⟨hwait, hnone, hkept⟩ | ⟨_, hkept, hsome⟩⟩ := hover.release
  · rw [hnone]
    exact ⟨u, .concluded hservice hwait hover.now hnone hkept, rfl⟩
  · rw [hsome]
    dsimp only
    rw [hover.now]
    by_cases hdue : ∃ wait, (QueryService.receive service (.release route.id)).wait = some wait ∧
        wait ≤ limit
    · obtain ⟨wait, hwait, hle⟩ := hdue
      rw [hwait, Option.map_some] at hsome ⊢
      obtain ⟨hback, hview⟩ := hover.moveTo_due hservice hkept hwait hsome
      rw [Option.getD_some, Nat.min_eq_left (Nat.add_le_add_left hle now), ← hview]
      exact ⟨_, hback, rfl⟩
    · have hlate (wait : Nat)
          (hwait : (QueryService.receive service (.release route.id)).wait = some wait) :
          limit < wait := Nat.lt_of_not_le fun hle => hdue ⟨wait, hwait, hle⟩
      have hinstant : min (((QueryService.receive service (.release route.id)).wait.map
          (now + ·)).getD (now + limit)) (now + limit) = now + limit := by
        cases hwait : (QueryService.receive service (.release route.id)).wait with
        | none => exact Nat.min_self _
        | some wait =>
          have := hlate wait hwait
          rw [Option.map_some, Option.getD_some]
          omega
      obtain ⟨hback, hview⟩ := hover.moveTo_limit hservice hkept hlate hsome
      rw [hinstant, ← hview]
      exact ⟨_, hback, rfl⟩

end Lasts

end Timeline

end RankedSearch.Session
