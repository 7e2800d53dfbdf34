import RankedSearch.CommandLine.Run
import RankedSearch.Proofs.Session.Waiting

/-! # A run step by step

What a run does next depends on the view that it looks at and on the clock, and on nothing else.
`Point` says where a run stands between two looks at its session while it loads pages, and `Place`
where it stands from the start of its query on. By `drive_walks` a run goes from place to place in
this way while it drives its session. -/
namespace RankedSearch.CommandLine

open RankedSearch.Session

/-- Where a run stands between two looks at its session. -/
inductive Point
  /-- It waits for the first page. -/
  | waiting
  /-- It is about to load so many further pages, if there are any. -/
  | paging (left : Nat)
  /-- It asks for a page, with so many to load after it. The cursor was at `before`. -/
  | asking (left : Nat) (before : UInt32)
  | sending (left : Nat) (before : UInt32)
  /-- It waits until `sent` commands have been handled and nothing is in flight. -/
  | syncing (left : Nat) (before : UInt32) (sent : Nat)
  | ended (result : Except Fault Unit)

namespace Point

/-- Goes on at a point unless something has failed. -/
def after (result : Except Fault Unit) (p : Point) : Point :=
  match result with
  | .ok _ => p
  | .error fault => .ended (.error fault)

/-- Goes on after a page that has moved the cursor. -/
def synced (left : Nat) (before : UInt32) : Except Session.Fault View → Point
  | .ok v =>
    if v.currentPage = before then .ended (.error (.page (before + 1) (v.lastError.getD "")))
    else .paging left
  | .error fault => .ended (.error (.session fault))

/-- What a run makes of the view that it looks at, if anything. -/
def look (args : Arguments) (v : View) : Point → Option Point
  | .waiting => (firstPage v).map fun result => (paging (args.pages.toNat - 1)).after result
  | .paging 0 => some (.ended (.ok ()))
  | .paging (left + 1) =>
    some (if v.hasMorePages then .asking left v.currentPage else .ended (.ok ()))
  | .asking left before =>
    some (if v.isRanked then .sending left before
      else .ended (.error (.session (.notRanked v.query))))
  | .syncing left before sent =>
    (Timeline.lookFor (Timeline.isSynced sent) v).map (synced left before)
  | .sending .. | .ended _ => none

end Point

/-- Where a run stands, from the start of its query on. -/
inductive Place
  /-- The query is started, and its words are submitted. -/
  | starting
  /-- The words were refused, and the release of the query has been set off. -/
  | refused (fault : Service.Fault)
  /-- There is a session, whose route is to be printed. -/
  | opened
  /-- Pages are loaded. The first one is waited for until `last`. -/
  | driving (p : Point) (last : Nat)
  /-- The distractors at the end of the list are to be marked. -/
  | marking
  /-- The run waits until `sent` commands have been handled and nothing is in flight. -/
  | settling (sent : Nat)
  /-- The session has been driven, and is to be closed. -/
  | closing (driven : Except Fault Unit)
  /-- The end of the session is waited for. -/
  | stopping (driven : Except Fault Unit)
  /-- The release is waited for since an instant. -/
  | joining (driven : Except Fault Unit) (since : Nat)
  /-- The release was waited for since an instant, and what was found is to be reported. -/
  | reporting (driven : Except Fault Unit) (since : Nat)
  /-- The run has returned, with a message if it failed. The release was waited for since an
  instant, or not at all. -/
  | returned (result : Except String Unit) (since : Option Nat)
  /-- The run was brought down. -/
  | panicked

namespace Place

/-- Whether the run goes on. -/
def goesOn : Place → Bool
  | .returned .. | .panicked => false
  | _ => true

/-- Whether the run goes on and the words of its query have been submitted. -/
def underway (p : Place) : Prop := p.goesOn = true ∧ p ≠ .starting

/-- Goes on when the pages have been loaded, or could not be. -/
def paged (args : Arguments) : Except Fault Unit → Place
  | .ok _ => if args.tailDistractors then .marking else .closing (.ok ())
  | .error fault => .closing (.error fault)

/-- Goes on when the marks have been settled. Marks that were taken back are no failure. -/
def settled : Except Session.Fault View → Place
  | .ok _ => .closing (.ok ())
  | .error fault => .closing (.error (.session fault))

/-- The command that a run sends at a place, and where it goes when so many commands were sent. -/
def command? : Place → Option (Command × (Nat → Place))
  | .driving (.sending left before) last =>
    some (.loadMore, fun sent => .driving (.syncing left before sent) last)
  | .marking => some (.markTailDistractors, .settling)
  | _ => none

/-- Where a run goes by itself that looks at a view at an instant. -/
inductive Next (args : Arguments) (v : View) (now : Nat) : Place → Place → Prop
  | print : Next args v now .opened (.driving .waiting (now + args.waitSeconds.toNat * 1000))
  | look {p next : Point} {last : Nat} (h : p.look args v = some next) :
      Next args v now (.driving p last) (.driving next last)
  | giveUp {last : Nat} (hlate : last ≤ now) :
      Next args v now (.driving .waiting last) (.closing (.error (.notRanked args.waitSeconds)))
  | page (result : Except Fault Unit) (last : Nat) :
      Next args v now (.driving (.ended result) last) (paged args result)
  | settle {sent : Nat} {result : Except Session.Fault View}
      (h : Timeline.lookFor (Timeline.isSynced sent) v = some result) :
      Next args v now (.settling sent) (settled result)

end Place

/-- What a run fails with that would wait for ever, or whose session was brought down. -/
def untold : List Fault := [.noMoreViews, .session .closed]

section

variable {σ : Type} [QueryService σ] {args : Arguments} {t u w : Timeline σ} {p q r : Place}

/-- From one place to another: the run goes on by itself or sends a command, and the session is left
to itself in between. -/
inductive Walks (args : Arguments) : Timeline σ → Place → Timeline σ → Place → Prop
  | refl (t : Timeline σ) (p : Place) : Walks args t p t p
  | settle {t u : Timeline σ} {p q : Place} (h : Walks args t.settle p u q) : Walks args t p u q
  | setClock {t u : Timeline σ} {p q : Place} (instant : Nat)
      (h : Walks args (t.setClock instant) p u q) : Walks args t p u q
  | go {t u : Timeline σ} {p q next : Place} (hnext : p.Next args t.view t.now next)
      (h : Walks args t next u q) : Walks args t p u q
  | send {t u sent : Timeline σ} {p q : Place} {c : Command} {next : Nat → Place}
      (hc : p.command? = some (c, next)) (hsent : t.send c = (sent, .ok ()))
      (h : Walks args sent (next sent.sent) u q) : Walks args t p u q

namespace Walks

theorem trans (h : Walks args t p u q) (hrest : Walks args u q w r) : Walks args t p w r := by
  induction h with
  | refl => exact hrest
  | settle _ ih => exact .settle (ih hrest)
  | setClock instant _ ih => exact .setClock instant (ih hrest)
  | go hnext _ ih => exact .go hnext (ih hrest)
  | send hc hsent _ ih => exact .send hc hsent (ih hrest)

theorem of_elapses (p : Place) (h : t.Elapses u) : Walks args t p u p := by
  induction h with
  | refl => exact .refl ..
  | settle _ ih => exact .settle ih
  | setClock instant _ ih => exact .setClock instant ih

/-- Who waits stays at the same place. -/
theorem await {β : Type} {look : View → Option β} {outcome : Timeline.Awaited β} (p : Place)
    {limit : Option Nat} (h : t.await look limit = (u, outcome)) : Walks args t p u p := by
  have helapses := t.elapses_await look limit
  rw [h] at helapses
  exact of_elapses p helapses

/-- The run looks at the last view. -/
theorem look {here next : Point} {last : Nat} (hlook : here.look args t.view = some next)
    (h : Walks args t (.driving next last) u q) : Walks args t (.driving here last) u q :=
  .go (.look hlook) h

/-- A run that cannot load its pages stops driving the session. -/
theorem fail {fault : Fault} {last : Nat}
    (h : Walks args t p u (.driving (.ended (.error fault)) last)) :
    Walks args t p u (.closing (.error fault)) := h.trans (.go (.page ..) (.refl ..))

theorem waitForFirstPage_ok {last : Nat} (h : waitForFirstPage t args.waitSeconds = (u, .ok ())) :
    Walks args t (.driving .waiting last) u (.driving (.paging (args.pages.toNat - 1)) last) := by
  unfold CommandLine.waitForFirstPage at h
  generalize hawait : t.await firstPage (some (args.waitSeconds.toNat * 1000)) = awaited at h
  obtain ⟨w, outcome⟩ := awaited
  cases outcome with
  | found value =>
    cases h
    refine (Walks.await _ hawait).trans (.look ?_ (.refl ..))
    exact congrArg (Option.map _) (Timeline.await_found hawait)
  | gone | timedOut => cases h

theorem waitForFirstPage_error {fault : Fault}
    (h : waitForFirstPage t args.waitSeconds = (u, .error fault)) (htold : fault ∉ untold) :
    Walks args t (.driving .waiting (t.now + args.waitSeconds.toNat * 1000)) u
      (.closing (.error fault)) := by
  unfold CommandLine.waitForFirstPage at h
  generalize hawait : t.await firstPage (some (args.waitSeconds.toNat * 1000)) = awaited at h
  obtain ⟨w, outcome⟩ := awaited
  cases outcome with
  | found value =>
    cases h
    refine ((Walks.await _ hawait).trans (.look ?_ (.refl ..))).fail
    exact congrArg (Option.map _) (Timeline.await_found hawait)
  | gone =>
    cases h
    simp [untold] at htold
  | timedOut =>
    cases h
    have hlate := Timeline.le_now_of_await hawait
    exact (Walks.await _ hawait).trans (.go (.giveUp hlate) (.refl ..))

theorem catchUp {v : View} (p : Place) (h : catchUp t = (u, .ok v)) :
    Walks args t p u p ∧
      Timeline.lookFor (Timeline.isSynced t.sent) u.view = some (.ok v) := by
  unfold CommandLine.catchUp Timeline.sync Timeline.awaitView at h
  generalize hawait : t.await (Timeline.lookFor (Timeline.isSynced t.sent)) none = awaited at h
  obtain ⟨w, found | _ | _⟩ := awaited
  · cases found <;> cases h
    exact ⟨Walks.await p hawait, Timeline.await_found hawait⟩
  · cases h
  · cases h

end Walks

/-- The only thing that is wrong with a view is that it is the last one. -/
theorem lookFor_error {good : View → Bool} {v : View} {fault : Session.Fault}
    (h : Timeline.lookFor good v = some (.error fault)) : fault = .closed := by
  unfold Timeline.lookFor at h
  split at h
  · cases h
  · split at h <;> cases h
    rfl

theorem catchUp_error {fault : Fault} (h : catchUp t = (u, .error fault)) : fault ∈ untold := by
  unfold catchUp Timeline.sync Timeline.awaitView at h
  generalize hawait : t.await (Timeline.lookFor (Timeline.isSynced t.sent)) none = awaited at h
  obtain ⟨w, found | _ | _⟩ := awaited
  · cases found with
    | ok v => cases h
    | error fault =>
      cases h
      rw [lookFor_error (Timeline.await_found hawait)]
      simp [untold]
  · cases h
    simp [untold]
  · cases h
    simp [untold]

theorem send_error {c : Command} {fault : Session.Fault} (h : t.send c = (u, .error fault)) :
    Fault.session fault ∈ untold := by
  obtain ⟨ready, _, ⟨s, _, hsent⟩ | hsent⟩ := t.send_cases c
  · cases h.symm.trans hsent
  · cases h.symm.trans hsent
    simp [untold]

namespace Walks

theorem loadPage {left last : Nat} {result : Except Fault Unit} (h : loadPage t = (u, result))
    (htold : ∀ fault ∈ untold, result ≠ .error fault) :
    Walks args t (.driving (.asking left t.view.currentPage) last) u
      (.driving ((Point.paging left).after result) last) := by
  unfold CommandLine.loadPage Timeline.loadMore at h
  dsimp only at h
  by_cases hranked : t.view.isRanked = true
  · have hlook : (Point.asking left t.view.currentPage).look args t.view =
        some (.sending left t.view.currentPage) := congrArg some (if_pos hranked)
    rw [if_pos hranked] at h
    rcases hsend : t.send .loadMore with ⟨sent, accepted⟩
    rw [hsend] at h
    cases accepted with
    | ok =>
      refine .look hlook (.send rfl hsend ?_)
      rcases hcaught : CommandLine.catchUp sent with ⟨w, caught⟩
      dsimp only at h
      rw [hcaught] at h
      cases caught with
      | ok v =>
        obtain ⟨hwalks, hfound⟩ :=
          Walks.catchUp (.driving (.syncing left t.view.currentPage sent.sent) last) hcaught
        have hnext : (Point.syncing left t.view.currentPage sent.sent).look args w.view =
            some (Point.synced left t.view.currentPage (.ok v)) := congrArg (Option.map _) hfound
        refine hwalks.trans (.look hnext ?_)
        unfold Point.synced
        dsimp only at h ⊢
        split at h <;> rename_i hmoved
        · rw [if_pos hmoved]
          cases h
          exact .refl ..
        · rw [if_neg hmoved]
          cases h
          exact .refl ..
      | error fault =>
        cases h
        exact absurd rfl (htold fault (catchUp_error hcaught))
    | error fault =>
      cases h
      exact absurd rfl (htold (.session fault) (send_error hsend))
  · have hlook : (Point.asking left t.view.currentPage).look args t.view =
        some (.ended (.error (.session (.notRanked t.view.query)))) :=
      congrArg some (if_neg hranked)
    rw [if_neg hranked] at h
    cases h
    exact .look hlook (.refl ..)

theorem loadPages {count last : Nat} {result : Except Fault Unit}
    (h : loadPages count t = (u, result)) (htold : ∀ fault ∈ untold, result ≠ .error fault) :
    Walks args t (.driving (.paging count) last) u (.driving (.ended result) last) := by
  induction count generalizing t with
  | zero =>
    cases h
    exact .look rfl (.refl ..)
  | succ count ih =>
    unfold CommandLine.loadPages at h
    split at h
    · rename_i hmore
      have hlook : (Point.paging (count + 1)).look args t.view =
          some (.asking count t.view.currentPage) := congrArg some (if_pos hmore)
      refine .look hlook ?_
      rcases hloaded : CommandLine.loadPage t with ⟨w, loaded⟩
      rw [hloaded] at h
      cases loaded with
      | ok => exact (loadPage hloaded nofun).trans (ih h)
      | error fault =>
        cases h
        exact loadPage hloaded htold
    · rename_i hlast
      cases h
      exact .look (congrArg some (if_neg hlast)) (.refl ..)

theorem markTail {result : Except Fault Unit} (h : markTail t = (u, result))
    (htold : ∀ fault ∈ untold, result ≠ .error fault) :
    Walks args t .marking u (.closing result) := by
  unfold CommandLine.markTail Timeline.markTailDistractors at h
  rcases hsend : t.send .markTailDistractors with ⟨sent, accepted⟩
  rw [hsend] at h
  cases accepted with
  | ok =>
    refine .send rfl hsend ?_
    rcases hcaught : CommandLine.catchUp sent with ⟨w, caught⟩
    dsimp only at h
    rw [hcaught] at h
    cases caught with
    | ok v =>
      cases h
      obtain ⟨hwalks, hfound⟩ := Walks.catchUp (.settling sent.sent) hcaught
      exact hwalks.trans (.go (.settle hfound) (.refl ..))
    | error fault =>
      cases h
      exact absurd rfl (htold fault (catchUp_error hcaught))
  | error fault =>
    cases h
    exact absurd rfl (htold (.session fault) (send_error hsend))

end Walks

/-- **A run goes from place to place** while it drives its session, unless it would wait for ever or
its session is brought down. -/
theorem drive_walks {result : Except Fault Unit} (h : drive t args = (u, result))
    (htold : ∀ fault ∈ untold, result ≠ .error fault) :
    Walks args t .opened u (.closing result) := by
  refine .go .print ?_
  unfold drive at h
  rcases hopened : waitForFirstPage t args.waitSeconds with ⟨w, opened⟩
  rw [hopened] at h
  cases opened with
  | error fault =>
    cases h
    exact Walks.waitForFirstPage_error hopened fun hm => htold fault hm rfl
  | ok =>
    refine (Walks.waitForFirstPage_ok hopened).trans ?_
    dsimp only at h
    rcases hpaged : loadPages (args.pages.toNat - 1) w with ⟨v, paged⟩
    rw [hpaged] at h
    cases paged with
    | error fault =>
      cases h
      exact (Walks.loadPages hpaged htold).fail
    | ok =>
      refine (Walks.loadPages hpaged nofun).trans (.go (.page ..) ?_)
      unfold Place.paged
      dsimp only at h ⊢
      split at h <;> rename_i htail
      · rw [if_pos htail]
        exact Walks.markTail h htold
      · rw [if_neg htail]
        cases h
        exact .refl ..

end

end RankedSearch.CommandLine
