import RankedSearch.Session.Timeline

/-! # Time that passes, and how a wait ends

While its user waits, nothing happens to a session but that it does what it can and that the clock
moves; `Elapses` says so once for every kind of waiting. Who waits for a view finds something just
if the last view that was published shows it, and finds at once what is there already. Who waits in
vain has waited for as long as he meant to. -/
namespace RankedSearch.Session.Timeline

/-! ## What happens meanwhile -/

section

variable {σ β : Type} [QueryService σ] {look : View → Option β} {t u : Timeline σ}

/-- What becomes of a timeline while its user does nothing. -/
inductive Elapses : Timeline σ → Timeline σ → Prop
  | refl (t : Timeline σ) : Elapses t t
  | settle {t u : Timeline σ} (h : Elapses t.settle u) : Elapses t u
  | setClock {t u : Timeline σ} (instant : Nat) (h : Elapses (t.setClock instant) u) : Elapses t u

namespace Elapses

/-- What the session and the clock keep is kept as time passes. -/
theorem invariant {P : Timeline σ → Prop} (hsettle : ∀ {t : Timeline σ}, P t → P t.settle)
    (hclock : ∀ {t : Timeline σ} (instant : Nat), P t → P (t.setClock instant))
    (h : Elapses t u) (ht : P t) : P u := by
  induction h with
  | refl => exact ht
  | settle _ ih => exact ih (hsettle ht)
  | setClock instant _ ih => exact ih (hclock instant ht)

theorem limit (t : Timeline σ) (last : Option Nat) :
    Elapses t (match last with | some last => t.setClock last | none => t) := by
  cases last with
  | none => exact .refl t
  | some last => exact .setClock last (.refl _)

theorem moveTo {instant : Nat} (h : Elapses (t.moveTo instant) u) : Elapses t u :=
  .setClock instant (.settle h)

end Elapses

theorem elapses_passFrom (t : Timeline σ) (fuel last : Nat) :
    Elapses t (passFrom fuel t last) := by
  have hlast (t : Timeline σ) : Elapses t (t.setClock last) := .setClock last (.refl _)
  induction fuel generalizing t with
  | zero => exact hlast t
  | succ fuel ih =>
    unfold passFrom
    split
    · split
      · exact .moveTo (ih _)
      · exact hlast t
    · exact hlast t

theorem elapses_pass (t : Timeline σ) (milliseconds : Nat) : Elapses t (t.pass milliseconds) := by
  unfold pass
  split
  · exact .refl t
  · exact .settle (elapses_passFrom ..)

/-- Who closes a session waits for the release only after that. -/
theorem elapses_closeAndRelease (t : Timeline σ) (limit : Nat) :
    Elapses t.close.1 (t.closeAndRelease limit).1 := by
  unfold closeAndRelease
  generalize t.close = closed
  obtain ⟨u, result⟩ := closed
  dsimp only
  split
  · exact .moveTo (.refl _)
  · exact .refl _

theorem elapses_awaitFrom (t : Timeline σ) (fuel : Nat) (last : Option Nat) :
    Elapses t (awaitFrom look fuel t last).1 := by
  induction fuel generalizing t with
  | zero =>
    unfold awaitFrom
    split
    · exact .refl t
    · exact .limit t last
  | succ fuel ih =>
    unfold awaitFrom
    split
    · exact .refl t
    · cases t.nextDue with
      | none => exact .limit t last
      | some instant =>
        dsimp only
        split
        · exact .moveTo (ih _)
        · exact .limit t last

/-- However long the user waits for a view, and whatever for. -/
theorem elapses_await (t : Timeline σ) (look : View → Option β) (limit : Option Nat) :
    Elapses t (t.await look limit).1 := by
  unfold await
  split
  · exact .refl t
  · split
    · exact .refl t
    · exact .settle (elapses_awaitFrom ..)

end

/-! ## What is found -/

variable {σ β : Type} {look : View → Option β} {t : Timeline σ}

theorem glance_eq_none (h : glance look t = none) : look t.view = none := by
  unfold glance at h
  split at h
  · cases h
  · assumption

theorem glance_found_iff {outcome : Awaited β} (h : glance look t = some outcome) (value : β) :
    outcome = .found value ↔ look t.view = some value := by
  unfold glance at h
  split at h
  · rename_i found hfound
    cases h
    simp [hfound]
  · rename_i hnone
    rw [hnone]
    split at h <;> cases h
    simp

theorem glance_of_found {value : β} (h : look t.view = some value) :
    glance look t = some (.found value) := by
  unfold glance
  rw [h]

/-- Who has seen nothing and waits in vain has found nothing. -/
theorem timedOut_found_iff {u : Timeline σ} (hu : u.view = t.view) (h : glance look t = none)
    (value : β) : Awaited.timedOut = .found value ↔ look u.view = some value := by
  simp [hu, glance_eq_none h]

variable [QueryService σ]

theorem awaitFrom_found_iff (fuel : Nat) (last : Option Nat) (value : β) :
    (awaitFrom look fuel t last).2 = .found value ↔
      look (awaitFrom look fuel t last).1.view = some value := by
  induction fuel generalizing t with
  | zero =>
    unfold awaitFrom
    cases hg : glance look t with
    | some outcome => exact glance_found_iff hg value
    | none => exact timedOut_found_iff (by cases last <;> rfl) hg value
  | succ fuel ih =>
    unfold awaitFrom
    cases hg : glance look t with
    | some outcome => exact glance_found_iff hg value
    | none =>
      cases t.nextDue with
      | none => exact timedOut_found_iff (by cases last <;> rfl) hg value
      | some instant =>
        dsimp only
        split
        · exact ih
        · exact timedOut_found_iff (by cases last <;> rfl) hg value

/-- A wait finds what the view shows in which it ends. -/
theorem await_found_iff (limit : Option Nat) (value : β) :
    (t.await look limit).2 = .found value ↔ look (t.await look limit).1.view = some value := by
  unfold await
  cases hg : glance look t with
  | some outcome => exact glance_found_iff hg value
  | none =>
    dsimp only
    split
    · exact timedOut_found_iff rfl hg value
    · exact awaitFrom_found_iff ..

theorem await_found {u : Timeline σ} {limit : Option Nat} {value : β}
    (h : t.await look limit = (u, .found value)) : look u.view = some value := by
  have hfound : look (t.await look limit).1.view = some value :=
    (await_found_iff limit value).mp (by rw [h])
  rwa [h] at hfound

theorem awaitFrom_of_found {value : β} (h : look t.view = some value) (fuel : Nat)
    (last : Option Nat) : awaitFrom look fuel t last = (t, .found value) := by
  unfold awaitFrom
  rw [glance_of_found h]

/-- What is due next is waited for, if there is time. -/
theorem awaitFrom_of_due {last : Option Nat} {due : Nat} (h : glance look t = none)
    (hdue : t.nextDue = some due) (hlast : last.all (due < ·) = true) (fuel : Nat) :
    awaitFrom look (fuel + 1) t last = awaitFrom look fuel (t.moveTo due) last := by
  conv => lhs; unfold awaitFrom
  rw [h, hdue]
  exact if_pos hlast

/-- At the limit the wait is over before what is due then. -/
theorem awaitFrom_of_late {last : Option Nat} {due : Nat} (h : glance look t = none)
    (hdue : t.nextDue = some due) (hlast : last.all (due < ·) ≠ true) (fuel : Nat) :
    (awaitFrom look (fuel + 1) t last).2 = .timedOut := by
  conv => lhs; unfold awaitFrom
  rw [h, hdue]
  exact congrArg Prod.snd (if_neg hlast)

/-- Who finds nothing, and means to wait, lets the session run. -/
theorem await_of_none {limit : Option Nat} (h : glance look t = none) (hlimit : limit ≠ some 0) :
    t.await look limit =
      awaitFrom look t.settle.instants t.settle (limit.map (t.settle.now + ·)) := by
  unfold await
  rw [h]
  exact if_neg hlimit

theorem await_of_zero (h : glance look t = none) : t.await look (some 0) = (t, .timedOut) := by
  unfold await
  rw [h]
  exact if_pos rfl

/-- What is there to be found is found at once. -/
theorem await_of_found {value : β} (h : look t.view = some value) (limit : Option Nat) :
    t.await look limit = (t, .found value) := by
  unfold await
  rw [glance_of_found h]

/-! ## The clock -/

/-- What no session changes by itself: the instant, and how many commands may wait. -/
def frame (t : Timeline σ) : Nat × Nat := (t.now, t.capacity)

omit [QueryService σ] in
theorem frame_feed (t : Timeline σ) (i : Input) : (t.feed i).1.frame = t.frame := by
  unfold feed
  split <;> rfl

omit [QueryService σ] in
theorem frame_feedAll (t : Timeline σ) (inputs : List Input) :
    (t.feedAll inputs).1.frame = t.frame := by
  induction inputs generalizing t with
  | nil => rfl
  | cons i rest ih => exact (ih _).trans (frame_feed t i)

omit [QueryService σ] in
theorem frame_conclude (t : Timeline σ) (finish : σ → σ × Service.Conclusion Answer) :
    (t.conclude finish).1.frame = t.frame := by
  unfold conclude
  split
  · dsimp only
    split
    · exact frame_feed _ _
    · rfl
  · rfl

theorem frame_launch (t : Timeline σ) (task : Task) : (t.launch task).1.frame = t.frame := by
  unfold launch
  split
  · dsimp only
    split
    · exact frame_conclude _ _
    · rfl
  · rfl

theorem frame_launchFrom (fuel : Nat) (t : Timeline σ) (tasks : List Task) :
    (launchFrom fuel t tasks).frame = t.frame := by
  induction fuel generalizing t tasks with
  | zero => rfl
  | succ fuel ih =>
    cases tasks with
    | nil => rfl
    | cons task rest => exact (ih _ _).trans (frame_launch t task)

theorem frame_shutDown (t : Timeline σ) : t.shutDown.frame = t.frame := by
  unfold shutDown
  split
  · dsimp only
    split <;> rfl
  · rfl

theorem frame_takeIn (t : Timeline σ) : t.takeIn.frame = t.frame := by
  have hdeadline (u : Timeline σ) :
      (if u.deadlineDue then u.feed .deadlinePassed else (u, [])).1.frame = u.frame := by
    split
    · exact frame_feed _ _
    · rfl
  have hclosing (u : Timeline σ) : (if u.closing then u.shutDown else u).frame = u.frame := by
    split
    · exact frame_shutDown u
    · rfl
  unfold takeIn
  refine (hclosing _).trans ((frame_launchFrom ..).trans ((frame_feedAll ..).trans ?_))
  exact (hdeadline _).trans (frame_feedAll ..)

theorem frame_concludeDue (t : Timeline σ) : t.concludeDue.frame = t.frame := by
  have hcalls {step : Timeline σ → Call σ Answer → Timeline σ}
      (hstep : ∀ u c, (step u c).frame = u.frame) (calls : List (Call σ Answer))
      (u : Timeline σ) : (calls.foldl step u).frame = u.frame := by
    induction calls generalizing u with
    | nil => rfl
    | cons c rest ih => exact (ih _).trans (hstep u c)
  exact hcalls (fun _ _ => (frame_launchFrom ..).trans (frame_conclude ..)) _ _

/-- A session does what it can within the instant. -/
theorem frame_settle (t : Timeline σ) : t.settle.frame = t.frame := by
  have hrelease (u : Timeline σ) : u.concludeRelease.frame = u.frame := by
    unfold concludeRelease
    split
    · split <;> rfl
    · rfl
  exact (hrelease _).trans ((frame_concludeDue _).trans (frame_takeIn t))

theorem frame_send (t : Timeline σ) (c : Command) : (t.send c).1.frame = t.frame := by
  obtain ⟨ready, hready, hsent⟩ := t.send_cases c
  have hframe : ready.frame = t.frame := by
    rcases hready with ⟨rfl, _⟩ | rfl
    · rfl
    · exact frame_settle t
  rcases hsent with ⟨_, _, hsent⟩ | hsent
  · rw [hsent]
    exact hframe
  · rw [hsent]
    exact hframe

theorem now_settle (t : Timeline σ) : t.settle.now = t.now := congrArg Prod.fst (frame_settle t)

theorem capacity_settle (t : Timeline σ) : t.settle.capacity = t.capacity :=
  congrArg Prod.snd (frame_settle t)

omit [QueryService σ] in
theorem glance_ne_timedOut : glance look t ≠ some .timedOut := by
  unfold glance
  split
  · nofun
  · split <;> nofun

/-- Who waits in vain has seen nothing at first. -/
theorem glance_of_awaitFrom {u : Timeline σ} {fuel : Nat} {last : Option Nat}
    (h : awaitFrom look fuel t last = (u, .timedOut)) : glance look t = none := by
  cases hseen : glance look t with
  | none => rfl
  | some outcome =>
    unfold awaitFrom at h
    rw [hseen] at h
    cases h
    exact absurd hseen glance_ne_timedOut

theorem le_now_of_awaitFrom {u : Timeline σ} {fuel last : Nat}
    (h : awaitFrom look fuel t (some last) = (u, .timedOut)) : last ≤ u.now := by
  have hexpired {t : Timeline σ} {outcome : Awaited β}
      (h : (t.setClock last, .timedOut) = (u, outcome)) : last ≤ u.now := by
    cases h
    exact Nat.le_max_right ..
  induction fuel generalizing t with
  | zero =>
    have hnone := glance_of_awaitFrom h
    unfold awaitFrom at h
    rw [hnone] at h
    exact hexpired h
  | succ fuel ih =>
    have hnone := glance_of_awaitFrom h
    unfold awaitFrom at h
    rw [hnone] at h
    cases hdue : t.nextDue with
    | none =>
      rw [hdue] at h
      exact hexpired h
    | some instant =>
      rw [hdue] at h
      dsimp only at h
      split at h
      · exact ih h
      · exact hexpired h

/-- Who finds nothing in time has waited until the limit. -/
theorem le_now_of_await {u : Timeline σ} {limit : Nat}
    (h : t.await look (some limit) = (u, .timedOut)) : t.now + limit ≤ u.now := by
  unfold await at h
  split at h
  · rename_i hseen
    cases h
    exact absurd hseen glance_ne_timedOut
  · split at h
    · rename_i hzero
      cases hzero
      cases h
      exact Nat.le_refl _
    · have hlast := le_now_of_awaitFrom h
      rwa [now_settle] at hlast

end RankedSearch.Session.Timeline
