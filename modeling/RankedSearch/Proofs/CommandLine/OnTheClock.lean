import RankedSearch.Proofs.CommandLine.Executions
import RankedSearch.Proofs.CommandLine.FirstPage
import RankedSearch.Proofs.Session.Driven
import RankedSearch.Proofs.Session.Steady

/-! # A run on its clock is one of its executions

A run on a clock hears all its news when its session starts, and its session takes things in by a
fixed order. `runSession_executes` says that what it leaves behind is what an execution leaves,
unless it would wait for ever: while the session is driven the execution goes from place to place as
`drive_walks` says that the run does, and an `Along` carries it from one course to the next. -/
namespace RankedSearch.CommandLine

open RankedSearch.Session

/-! ## Places -/

namespace Place

theorem Next.underway {args : Arguments} {v : View} {now : Nat} {p next : Place}
    (h : p.Next args v now next) : next.underway := by
  cases h with
  | print | look | giveUp => exact ⟨rfl, nofun⟩
  | page result =>
    cases result with
    | ok =>
      show Place.underway (if args.tailDistractors then .marking else .closing (.ok ()))
      split <;> exact ⟨rfl, nofun⟩
    | error => exact ⟨rfl, nofun⟩
  | @settle _ result => cases result <;> exact ⟨rfl, nofun⟩

theorem underway_of_command? {p : Place} {c : Command} {next : Nat → Place}
    (h : p.command? = some (c, next)) (n : Nat) : (next n).underway := by
  unfold command? at h
  split at h <;> cases h <;> exact ⟨rfl, nofun⟩

end Place

/-! ## A session that lasts -/

section

variable {σ : Type} [QueryService σ] {P : σ → Prop} {route : Query.Route} {now : Nat}
  {t : Timeline σ}

theorem lasts_waitForFirstPage (hσ : Steady σ P) (h : t.Lasts P route false now)
    (seconds : UInt64) : ∃ later, (waitForFirstPage t seconds).1.Lasts P route false later := by
  rw [waitForFirstPage_fst]
  exact h.elapses hσ (Timeline.elapses_await ..)

theorem lasts_catchUp (hσ : Steady σ P) (h : t.Lasts P route false now) :
    ∃ later, (catchUp t).1.Lasts P route false later := by
  have hsync : ∃ later, (t.sync none).1.Lasts P route false later :=
    h.elapses hσ (Timeline.elapses_await ..)
  unfold catchUp
  generalize t.sync none = synced at hsync ⊢
  obtain ⟨u, outcome⟩ := synced
  rcases outcome with (_ | _) | _ | _ <;> exact hsync

theorem lasts_loadPage (hσ : Steady σ P) (h : t.Lasts P route false now) :
    ∃ later, (loadPage t).1.Lasts P route false later := by
  have hsent := h.loadMore hσ
  unfold loadPage
  dsimp only
  generalize t.loadMore = sent at hsent ⊢
  obtain ⟨u, _ | _⟩ := sent
  · exact ⟨now, hsent⟩
  · have hcaught := lasts_catchUp hσ hsent
    dsimp only
    generalize catchUp u = caught at hcaught ⊢
    obtain ⟨v, _ | _⟩ := caught
    · exact hcaught
    · dsimp only
      split <;> exact hcaught

theorem lasts_loadPages (hσ : Steady σ P) (h : t.Lasts P route false now) (count : Nat) :
    ∃ later, (loadPages count t).1.Lasts P route false later := by
  induction count generalizing t now with
  | zero => exact ⟨now, h⟩
  | succ count ih =>
    unfold loadPages
    split
    · have hloaded := lasts_loadPage hσ h
      generalize loadPage t = loaded at hloaded ⊢
      obtain ⟨u, _ | _⟩ := loaded
      · exact hloaded
      · obtain ⟨_, hlater⟩ := hloaded
        exact ih hlater
    · exact ⟨now, h⟩

theorem lasts_markTail (hσ : Steady σ P) (h : t.Lasts P route false now) :
    ∃ later, (markTail t).1.Lasts P route false later := by
  have hsent : t.markTailDistractors.1.Lasts P route false now := h.send hσ _
  unfold markTail
  generalize t.markTailDistractors = sent at hsent ⊢
  obtain ⟨u, _ | _⟩ := sent
  · exact ⟨now, hsent⟩
  · have hcaught := lasts_catchUp hσ hsent
    dsimp only
    generalize catchUp u = caught at hcaught ⊢
    obtain ⟨v, _ | _⟩ := caught <;> exact hcaught

/-- Whatever becomes of driving a session, the session is still there to be closed. -/
theorem lasts_drive (hσ : Steady σ P) (h : t.Lasts P route false now) (args : Arguments) :
    ∃ later, (drive t args).1.Lasts P route false later := by
  have hwaited := lasts_waitForFirstPage hσ h args.waitSeconds
  unfold drive
  generalize waitForFirstPage t args.waitSeconds = waited at hwaited ⊢
  obtain ⟨u, _ | _⟩ := waited
  · exact hwaited
  · obtain ⟨_, hlater⟩ := hwaited
    have hloaded := lasts_loadPages hσ hlater (args.pages.toNat - 1)
    dsimp only
    generalize loadPages (args.pages.toNat - 1) u = loaded at hloaded ⊢
    obtain ⟨v, _ | _⟩ := loaded
    · exact hloaded
    · obtain ⟨_, hlast⟩ := hloaded
      dsimp only
      split
      · exact lasts_markTail hσ hlast
      · exact ⟨_, hlast⟩

end

/-! ## Executions beside a clock -/

/-- The courses of the executions that stand at a place at an instant. -/
def Execution.standing (args : Arguments) (plan : Plan) (place : Place) (now : Nat) :
    Along plan.phrase where
  Holds log p := place.underway ∧ Execution.Reachable args plan ⟨log, p, now, place⟩
  step h hstep hown := ⟨h.1, h.2.move (.session h.1 hstep hown)⟩

section

variable {σ α : Type} [QueryService σ] {P : σ → Prop} {record : Record σ α} {origin : σ}
  {args : Arguments} {plan : Plan} {route : Query.Route} {t u : Timeline σ} {p q : Place}

/-- An execution stands at a place, and its session where that of the timeline does. -/
def Abreast (record : Record σ α) (origin : σ) (args : Arguments) (plan : Plan) (p : Place)
    (t : Timeline σ) : Prop :=
  Timeline.AtRest record origin (Execution.standing args plan p t.now) t

namespace Abreast

theorem settle (h : Abreast record origin args plan p t) :
    Abreast record origin args plan p t.settle := by
  unfold Abreast
  rw [Timeline.now_settle]
  exact Timeline.AtRest.settle h

theorem setClock (h : Abreast record origin args plan p t) (instant : Nat) :
    Abreast record origin args plan p (t.setClock instant) := by
  have hlater : Timeline.AtRest record origin
      (Execution.standing args plan p (max t.now instant)) t :=
    Timeline.AtRest.weaken h fun hknown =>
      ⟨hknown.1, hknown.2.move (.tick hknown.1.1 (Nat.le_max_left ..))⟩
  exact hlater.setClock instant

theorem elapses (h : Abreast record origin args plan p t) (hu : t.Elapses u) :
    Abreast record origin args plan p u :=
  hu.invariant (P := Abreast record origin args plan p) settle (fun i h => h.setClock i) h

/-- A run that closes its session waits for the release, as its execution does. -/
theorem closes (hσ : Steady σ P) {driven : Except Fault Unit} {now : Nat}
    (hlasts : t.Lasts P route false now)
    (h : Abreast record origin args plan (.closing driven) t) :
    ∃ e : Execution, e.Reachable args plan ∧ e.place = .reporting driven now ∧
      record.seen (t.closeAndRelease plan.timeout).1.service =
        record.seen origin ++ (calls e.log).flatMap record.note ∧
      ((t.closeAndRelease plan.timeout).1.release.isSome = false →
        ∃ id, e.phase = .released id) := by
  obtain ⟨_, s, hs, _⟩ := hlasts.running
  have hleft : Abreast record origin args plan (.stopping driven) t.drop :=
    Timeline.AtRest.leave h hs fun hknown => ⟨⟨rfl, nofun⟩, hknown.2.move (.close rfl rfl)⟩
  obtain ⟨u, hover, hclose⟩ := hlasts.close hσ
  obtain rfl : t.drop.settle = u := t.close_fst.symm.trans (congrArg Prod.fst hclose)
  have hjoined : Abreast record origin args plan (.joining driven now) t.drop.settle := by
    refine Timeline.AtRest.learn_ended hleft.settle hover.status fun hknown => ⟨⟨rfl, nofun⟩, ?_⟩
    have hmoved := hknown.2.move (.join rfl rfl)
    rw [← hover.now]
    exact hmoved
  have helapses := t.elapses_closeAndRelease plan.timeout
  rw [hclose] at helapses
  have hrest := hjoined.elapses helapses
  have hended := hover.toEnded.elapses helapses
  obtain ⟨w, hback, hclosed⟩ := hlasts.closeAndRelease hσ plan.timeout
  rw [hclosed] at hrest hended ⊢
  obtain ⟨_, log, p, hfollows⟩ := hrest
  obtain ⟨id, rfl⟩ := hfollows.ended hended.status
  have hwaited := hfollows.known.2
  cases hback with
  | concluded =>
    have hreleased := hwaited.move
      (.session ⟨rfl, nofun⟩ (.released id (.ok ())) (by simp [Unprompted]))
    refine ⟨_, hreleased.move (.conclude rfl rfl), rfl, ?_, fun _ => ⟨id, rfl⟩⟩
    simpa [Execution.follow, Happening.call?] using hfollows.seen
  | waited _ _ hnow hrelease =>
    refine ⟨_, hwaited.move (.abandon rfl (Nat.le_of_eq hnow.symm)), rfl, hfollows.seen, ?_⟩
    intro hnone
    cases hnone.symm.trans hrelease

end Abreast

/-! ## Driving a session -/

/-- A run that drives a session which nothing brings down, and an execution beside it. -/
structure Drives (P : σ → Prop) (route : Query.Route) (record : Record σ α) (origin : σ)
    (args : Arguments) (plan : Plan) (p : Place) (t : Timeline σ) : Prop where
  lasts : ∃ now, t.Lasts P route false now
  capacity : t.capacity = plan.settings.capacity
  abreast : Abreast record origin args plan p t

namespace Drives

/-- News that is not taken in yet leaves the execution where it is. -/
theorem notify (h : Drives P route record origin args plan p t) (n : Notification) :
    Drives P route record origin args plan p (t.notify n).1 := by
  obtain ⟨⟨now, hlasts⟩, hcapacity, habreast⟩ := h
  have hlater := hlasts.notify n
  have hheard := Timeline.AtRest.notify habreast n
  rcases t.notify_cases n with hsent | hsent
  · rw [hsent] at hlater hheard ⊢
    exact ⟨⟨now, hlater⟩, hcapacity, hheard⟩
  · rw [hsent]
    exact ⟨⟨now, hlasts⟩, hcapacity, habreast⟩

theorem notifyAll (h : Drives P route record origin args plan p t) (news : List Notification) :
    Drives P route record origin args plan p (news.foldl (fun t n => (t.notify n).1) t) := by
  induction news generalizing t with
  | nil => exact h
  | cons n rest ih => exact ih (h.notify n)

theorem disconnect (h : Drives P route record origin args plan p t) :
    Drives P route record origin args plan p t.disconnect := by
  obtain ⟨⟨now, hlasts⟩, hcapacity, habreast⟩ := h
  exact ⟨⟨now, hlasts.disconnect⟩, hcapacity, Timeline.AtRest.disconnect habreast⟩

theorem settle (hσ : Steady σ P) (h : Drives P route record origin args plan p t) :
    Drives P route record origin args plan p t.settle := by
  obtain ⟨⟨now, hlasts⟩, hcapacity, habreast⟩ := h
  exact ⟨⟨now, hlasts.settle hσ⟩, t.capacity_settle.trans hcapacity, habreast.settle⟩

theorem setClock (h : Drives P route record origin args plan p t) (instant : Nat) :
    Drives P route record origin args plan p (t.setClock instant) := by
  obtain ⟨⟨_, hlasts⟩, hcapacity, habreast⟩ := h
  exact ⟨⟨_, hlasts.setClock instant⟩, hcapacity, habreast.setClock instant⟩

theorem go (h : Drives P route record origin args plan p t) (hnext : p.Next args t.view t.now q) :
    Drives P route record origin args plan q t := by
  obtain ⟨⟨now, hlasts⟩, hcapacity, habreast⟩ := h
  obtain ⟨_, s, hs, _⟩ := hlasts.running
  refine ⟨⟨now, hlasts⟩, hcapacity, Timeline.AtRest.learn habreast hs fun hknown hview => ?_⟩
  rw [← hview] at hnext
  exact ⟨hnext.underway, hknown.2.move (.go rfl hnext)⟩

theorem send (hσ : Steady σ P) (h : Drives P route record origin args plan p t) {c : Command}
    {next : Nat → Place} (hc : p.command? = some (c, next)) (hsend : t.send c = (u, .ok ())) :
    Drives P route record origin args plan (next u.sent) u := by
  obtain ⟨⟨now, hlasts⟩, hcapacity, habreast⟩ := h
  have hkept := hlasts.send hσ c
  have hframe := t.frame_send c
  rw [hsend] at hkept hframe
  obtain ⟨hnow, hroom⟩ := Prod.mk.inj hframe
  refine ⟨⟨now, hkept⟩, hroom.trans hcapacity, ?_⟩
  unfold Abreast
  rw [hnow]
  refine Timeline.AtRest.accept habreast hsend fun hknown hcount hfree => ?_
  rw [hcapacity] at hfree
  have hmoved := hknown.2.move (.send rfl hc (hfree (Nat.le_max_right ..)))
  rw [← hcount]
  exact ⟨Place.underway_of_command? hc _, hmoved⟩

/-- From place to place as the run goes: an execution goes the same way. -/
theorem walks (hσ : Steady σ P) (h : Drives P route record origin args plan p t)
    (hwalks : Walks args t p u q) : Drives P route record origin args plan q u := by
  induction hwalks with
  | refl => exact h
  | settle _ ih => exact ih (h.settle hσ)
  | setClock instant _ ih => exact ih (h.setClock instant)
  | go hnext _ ih => exact ih (h.go hnext)
  | send hc hsent _ ih => exact ih (h.send hσ hc hsent)

end Drives

/-! ## The whole run -/

/-- What a run returns. -/
def Outcome.result (o : Outcome σ) : Except String Unit :=
  match o.fault with
  | some fault => .error fault.message
  | none => .ok ()

/-- What a run leaves behind is what an execution does. The run returns the same, the service has
received the same calls, and the release was set off, or called and waited for, alike. -/
structure Execution.Leaves (e : Execution) (record : Record σ α) (origin : σ) (o : Outcome σ) :
    Prop where
  returned : ∃ since, e.place = .returned o.result since ∧
    o.spawned = if since.isSome then none else e.phase.query?
  calls : record.seen o.service = record.seen origin ++ (calls e.log).flatMap record.note
  released : o.releasePending = false → ∀ id ∈ e.phase.query?, e.phase = .released id

/-- A run that gets no session makes the calls of an execution that gets none. -/
theorem exists_unopened (record : Record σ α) (args : Arguments) (plan : Plan)
    {left : Timeline.Stillborn σ} {fault : Service.Fault}
    (h : Timeline.start origin plan.phrase plan.settings = .error left)
    (hfault : left.fault = some fault) :
    ∃ e : Execution, e.Reachable args plan ∧
      e.Leaves record origin
        { lines := [], fault := some (.service fault), service := left.service
          releasePending := left.spawned.isSome, spawned := left.spawned } := by
  rcases Timeline.start_eq_error h hfault with ⟨hopening, hspawned⟩ |
    ⟨id, started, hopening, hsubmission, hspawned⟩
  · refine ⟨_, Execution.Reachable.start.move (.unstarted rfl (.unstarted fault)), ?_⟩
    refine ⟨⟨none, rfl, hspawned⟩, ?_, fun _ _ hid => by cases hid⟩
    simp [Execution.follow, record.seen_call hopening, Happening.call?]
  · have hrefused := (Execution.reachable_submitting args plan id).move
      (.refused rfl (.refused id fault))
    refine ⟨_, hrefused.move (.fail rfl), ⟨none, rfl, hspawned⟩, ?_, fun hpending => ?_⟩
    · simp [Execution.follow, submitted, record.seen_call hsubmission, record.seen_call hopening,
        Happening.call?]
    · rw [hspawned] at hpending
      cases hpending

/-- The execution starts its session when the clock says that the words were accepted. -/
theorem Drives.start (hσ : Steady σ P) (record : Record σ α) (args : Arguments) {plan : Plan}
    (hservice : P origin) (h : Timeline.start origin plan.phrase plan.settings = .ok t) :
    ∃ id, Drives P ⟨id, plan.phrase⟩ record origin args plan .opened t := by
  obtain ⟨id, hlasts⟩ := Timeline.Lasts.start hσ hservice h
  refine ⟨id, ⟨_, hlasts⟩, Timeline.capacity_of_start h, Timeline.AtRest.start h fun id => ?_⟩
  obtain ⟨_, _, _, _, _, _, _, hqueue, _⟩ := Timeline.start_eq_ok h
  have hlater := (Execution.reachable_submitting args plan id).move
    (@Execution.Moves.tick _ _ _ t.now rfl (Nat.zero_le _))
  exact ⟨⟨rfl, nofun⟩, hlater.move (.accepted rfl hqueue (.accepted id))⟩

/-- A run that has closed its session returns what the execution does. -/
theorem Drives.conclude (hσ : Steady σ P) {driven : Except Fault Unit} (route' : String)
    (h : Drives P route record origin args plan (.closing driven) t) :
    ∃ e : Execution, e.Reachable args plan ∧
      e.Leaves record origin
        (CommandLine.conclude route' driven (t.closeAndRelease plan.timeout) args) := by
  obtain ⟨⟨now, hlasts⟩, _, habreast⟩ := h
  obtain ⟨e, hreachable, hplace, hcalls, hreleased⟩ := habreast.closes hσ hlasts
  obtain ⟨w, _, hclosed⟩ := hlasts.closeAndRelease hσ plan.timeout
  rw [hclosed] at hcalls hreleased ⊢
  have hresult : (CommandLine.conclude route' driven (w, .ok w.view) args).result =
      driven.mapError Fault.message := by cases driven <;> rfl
  have hleft : (CommandLine.conclude route' driven (w, .ok w.view) args).service = w.service ∧
      (CommandLine.conclude route' driven (w, .ok w.view) args).releasePending =
        w.release.isSome ∧
      (CommandLine.conclude route' driven (w, .ok w.view) args).spawned = none := by
    cases driven <;> exact ⟨rfl, rfl, rfl⟩
  obtain ⟨hservice, hpending, hspawned⟩ := hleft
  refine ⟨_, hreachable.move (.report hplace), ⟨some now, ?_, hspawned⟩, ?_, ?_⟩
  · rw [hresult]
  · rw [hservice]
    exact hcalls
  · rw [hpending]
    intro hnone id hid
    obtain ⟨released, hphase⟩ := hreleased hnone
    dsimp only at hid ⊢
    rw [hphase] at hid ⊢
    cases hid
    rfl

/-- **A run on its clock is one of its executions**, unless it would wait for ever. -/
theorem runSession_executes (hσ : Steady σ P) (record : Record σ α) (args : Arguments)
    {plan : Plan} (hservice : P origin) (news : List Notification) (channelOpen : Bool)
    (hreturned : (runSession args plan origin news channelOpen).returned = true)
    (htold : ∀ fault ∈ untold,
      (runSession args plan origin news channelOpen).fault ≠ some fault) :
    ∃ e : Execution, e.Reachable args plan ∧
      e.Leaves record origin (runSession args plan origin news channelOpen) := by
  unfold runSession at hreturned htold ⊢
  cases hstart : Timeline.start origin plan.phrase plan.settings with
  | error left =>
    rw [hstart] at hreturned
    obtain ⟨fault, hfault⟩ := Option.isSome_iff_exists.mp hreturned
    have hleft := exists_unopened record args plan hstart hfault
    dsimp only
    rw [hfault]
    exact hleft
  | ok t =>
    rw [hstart] at htold
    dsimp only at htold ⊢
    obtain ⟨id, hdrives⟩ := Drives.start hσ record args hservice hstart
    have hheard := hdrives.notifyAll news
    generalize news.foldl (fun t n => (t.notify n).1) t = heard at hheard htold ⊢
    have hready : Drives P ⟨id, plan.phrase⟩ record origin args plan .opened
        (if channelOpen then heard else heard.disconnect) := by
      split
      · exact hheard
      · exact hheard.disconnect
    generalize (if channelOpen then heard else heard.disconnect) = ready at hready htold ⊢
    obtain ⟨_, hlasts⟩ := hready.lasts
    obtain ⟨_, hlast⟩ := lasts_drive hσ hlasts args
    rcases hdriven : drive ready args with ⟨u, driven⟩
    rw [hdriven] at htold hlast
    obtain ⟨w, _, hclosed⟩ := hlast.closeAndRelease hσ plan.timeout
    dsimp only at htold ⊢
    rw [hclosed] at htold
    have hwalks : Walks args ready .opened u (.closing driven) := by
      refine drive_walks hdriven fun fault hm he => htold fault hm ?_
      rw [he]
      rfl
    exact (hready.walks hσ hwalks).conclude hσ _

end

end RankedSearch.CommandLine
