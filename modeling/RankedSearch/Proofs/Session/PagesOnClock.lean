import RankedSearch.Proofs.Session.PageByPage
import RankedSearch.Proofs.Session.Waiting
import RankedSearch.Service.Spy
import RankedSearch.Session.Timeline

/-! # Pages on the clock

A session on its clock that gets its pages from a service in memory which refuses nothing. Training
and ranking conclude as soon as they are asked for, and a page after the service's delay. So the
session comes to rest with a page on its way or with none, and `Progress.settled` says which it is.
-/
namespace RankedSearch.Service.Spy

open RankedSearch.Session (Task pageNumbers pageNumbers_succ pageTotal inRange_succ)

/-- A service in memory that refuses nothing and has been called for the first `called` pages. -/
structure Gives (pages : List (List Item)) (delay called : Nat) (s : Spy) : Prop where
  pages : s.pages = pages
  delay : s.delay = delay
  switches : s.switches = {}
  fetched : s.fetched = pageNumbers called

namespace Gives

variable {pages : List (List Item)} {delay called : Nat} {s : Spy}

theorem record_errand (h : s.Gives pages delay called) {task : Task} (ht : task.IsErrand)
    (id : Query.Id) : (s.record (task.request id)).Gives pages delay called := by
  rcases ht with rfl | rfl <;> exact { h with }

theorem record_fetch (h : s.Gives pages delay called) (id : Query.Id) :
    (s.record (.page id (UInt32.ofNat (called + 1)))).Gives pages delay (called + 1) :=
  { h with fetched := by rw [pageNumbers_succ, ← h.fetched]; rfl }

/-- A page that the ranking has comes. -/
theorem page_eq (hpages : pages.length < UInt32.size) (h : s.Gives pages delay called)
    {loaded : Nat} (hless : loaded < pageTotal pages) :
    s.page (UInt32.ofNat (loaded + 1)) =
      .ok (flaggedPage pages s.flags (UInt32.ofNat (loaded + 1))) := by
  unfold page
  rw [h.switches, h.pages, inRange_succ hpages hless]
  rfl

end Gives

end RankedSearch.Service.Spy

namespace RankedSearch.Session

open RankedSearch.Service (Request Spy flaggedPage)

namespace Progress

/-- The call for a page, which concludes at an instant. -/
def pageCall (number : UInt32) (due : Nat) : Call Spy Answer :=
  ⟨some due, fun service => (service, .returned (.fetched number (service.page number)))⟩

/-- The calls that wait while a session is as far. -/
def calls (due : Nat) : Progress → List (Call Spy Answer)
  | .awaited _ loaded => [pageCall (UInt32.ofNat (loaded + 1)) due]
  | _ => []

/-- The progress after the commands that have been sent. -/
def order : List Command → Progress → Progress
  | [.loadMore], .idle handled loaded => .asked (handled + 1) loaded
  | _, p => p

/-- The progress after a call for a page has been made, and when the call is due. -/
def launched (delay now due : Nat) : Progress → Progress × Nat
  | .asked handled loaded =>
    if delay = 0 then (.idle handled (loaded + 1), due)
    else (.awaited handled loaded, now + delay)
  | p => (p, due)

theorem launched_of_zero (now due handled loaded : Nat) {delay : Nat} (h : delay = 0) :
    (asked handled loaded).launched delay now due = (.idle handled (loaded + 1), due) := if_pos h

theorem launched_of_pos (now due handled loaded : Nat) {delay : Nat} (h : delay ≠ 0) :
    (asked handled loaded).launched delay now due = (.awaited handled loaded, now + delay) :=
  if_neg h

theorem launched_launched (delay now due : Nat) (p : Progress) :
    (p.launched delay now due).1.launched delay now (p.launched delay now due).2 =
      p.launched delay now due := by
  cases p with
  | asked handled loaded =>
    by_cases hzero : delay = 0
    · rw [launched_of_zero _ _ _ _ hzero]
      rfl
    · rw [launched_of_pos _ _ _ _ hzero]
      rfl
  | unranked | awaited | idle => rfl

/-- The progress after a call has concluded that is due. -/
def concluded (now due : Nat) : Progress → Progress
  | .awaited handled loaded =>
    if due ≤ now then .idle handled (loaded + 1) else .awaited handled loaded
  | p => p

theorem concluded_of_le (handled loaded : Nat) {now due : Nat} (h : due ≤ now) :
    (awaited handled loaded).concluded now due = .idle handled (loaded + 1) := if_pos h

theorem concluded_of_lt (handled loaded : Nat) {now due : Nat} (h : now < due) :
    (awaited handled loaded).concluded now due = .awaited handled loaded :=
  if_neg (Nat.not_le_of_gt h)

/-- The progress when all calls have been made and those that are due have concluded. -/
def settled (delay now due : Nat) (p : Progress) : Progress × Nat :=
  ((p.launched delay now due).1.concluded now (p.launched delay now due).2,
    (p.launched delay now due).2)

/-- A page that is asked for comes, or is awaited. -/
theorem settled_loading {p : Progress} {handled loaded : Nat} (delay now due : Nat)
    (hp : p = .asked handled loaded ∨ p = .awaited handled loaded) :
    (p.settled delay now due).1 = .idle handled (loaded + 1) ∨
      (p.settled delay now due).1 = .awaited handled loaded := by
  unfold settled
  rcases hp with rfl | rfl
  · by_cases hzero : delay = 0
    · rw [launched_of_zero _ _ _ _ hzero]
      exact Or.inl rfl
    · rw [launched_of_pos _ _ _ _ hzero]
      exact ite_eq_or_eq ..
  · exact ite_eq_or_eq ..

/-- Within an instant a session forgets neither that its query is ranked nor a command. -/
theorem settled_kept (delay now due : Nat) (p : Progress) :
    (p.settled delay now due).1.isRanked = p.isRanked ∧
      (p.settled delay now due).1.handled = p.handled := by
  cases p with
  | unranked | idle => exact ⟨rfl, rfl⟩
  | asked handled loaded =>
    rcases settled_loading delay now due (Or.inl (rfl : asked handled loaded = _)) with h | h <;>
      rw [h] <;> exact ⟨rfl, rfl⟩
  | awaited handled loaded =>
    rcases settled_loading delay now due (Or.inr (rfl : awaited handled loaded = _)) with h | h <;>
      rw [h] <;> exact ⟨rfl, rfl⟩

theorem isRanked_order (queue : List Command) (p : Progress) :
    (p.order queue).isRanked = p.isRanked := by
  unfold order
  split <;> rfl

/-- A call that is made concludes after the delay. -/
theorem settled_due_le {delay now due : Nat} (h : due ≤ now + delay) (p : Progress) :
    (p.settled delay now due).2 ≤ now + delay := by
  cases p with
  | unranked | idle | awaited => exact h
  | asked handled loaded =>
    unfold settled
    by_cases hzero : delay = 0
    · rw [launched_of_zero _ _ _ _ hzero]
      exact h
    · rw [launched_of_pos _ _ _ _ hzero]

end Progress

namespace Timeline

variable {route : Query.Route} {pages : List (List Item)} {delay due : Nat} {p : Progress}
  {unmade : List Task} {t u : Timeline Spy}

/-- The timeline with another session, service and calls. -/
def become (t : Timeline Spy) (s : Running) (service : Spy) (calls : List (Call Spy Answer)) :
    Timeline Spy :=
  { t with status := .running s, view := s.view, service, calls }

theorem feed_become (s : Running) (service : Spy) (calls : List (Call Spy Answer)) (i : Input) :
    (t.become s service calls).feed i =
      (t.become (s.step i).1 service calls, (s.step i).2) := rfl

theorem feedAll_singleton (u : Timeline Spy) (i : Input) : u.feedAll [i] = u.feed i := by
  simp [feedAll]

/-- Training and ranking conclude as they are called for. -/
theorem launch_become_errand {s : Running} (service : Spy) (calls : List (Call Spy Answer))
    {task : Task} (ht : task.IsErrand) :
    ∃ a : Answer, a.task.IsErrand ∧
      (t.become s service calls).launch task =
        (t.become (s.step (.answered a)).1 (service.record (task.request s.query)) calls, []) := by
  rcases ht with rfl | rfl
  · let result : Except Service.Fault Unit :=
      if service.switches.failTraining then .error (Spy.offline "train") else .ok ()
    have hnone : (s.step (.answered (.trained result))).2 = [] := by cases result <;> rfl
    refine ⟨.trained result, Or.inl rfl, ?_⟩
    rw [← hnone]
    rfl
  · exact ⟨.ranked (.ok ()), Or.inr rfl, rfl⟩

/-- A page that takes no time comes as it is called for. -/
theorem launch_become_fetch_zero {s : Running} {service : Spy} (calls : List (Call Spy Answer))
    (number : UInt32) (hdelay : service.delay = 0) :
    (t.become s service calls).launch (.fetch number) =
      (t.become s (service.record (.page s.query number)) calls).feed
        (.answered (.fetched number ((service.record (.page s.query number)).page number))) := by
  have hwait : (QueryService.receive service (Task.request s.query (.fetch number))).wait =
      some 0 := congrArg some hdelay
  unfold launch
  exact if_pos hwait

theorem launch_become_fetch {s : Running} {service : Spy} (calls : List (Call Spy Answer))
    (number : UInt32) (hdelay : service.delay ≠ 0) :
    (t.become s service calls).launch (.fetch number) =
      (t.become s (service.record (.page s.query number))
        (calls ++ [Progress.pageCall number (t.now + service.delay)]), []) := by
  have hwait : (QueryService.receive service (Task.request s.query (.fetch number))).wait ≠
      some 0 := fun hzero => hdelay (Option.some.inj hzero)
  unfold launch
  exact if_neg hwait

/-- A page comes when it is due. -/
theorem concludeDue_become_of_le (s : Running) (service : Spy) (number : UInt32)
    (h : due ≤ t.now) :
    (t.become s service [Progress.pageCall number due]).concludeDue =
      let (u, more) := (t.become s service []).feed
        (.answered (.fetched number (service.page number)))
      u.launchAll more := by
  have hdue : [Progress.pageCall number due].filter (fun c => c.due.any (· ≤ t.now)) =
      [Progress.pageCall number due] := by simp [Progress.pageCall, h]
  have hnone : [Progress.pageCall number due].filter (fun c => !c.due.any (· ≤ t.now)) = [] := by
    simp [Progress.pageCall, h]
  unfold concludeDue become
  dsimp only
  rw [hdue, hnone]
  rfl

theorem concludeDue_become_of_lt (s : Running) (service : Spy) (number : UInt32)
    (h : t.now < due) :
    (t.become s service [Progress.pageCall number due]).concludeDue =
      t.become s service [Progress.pageCall number due] := by
  have hdue : [Progress.pageCall number due].filter (fun c => c.due.any (· ≤ t.now)) = [] := by
    simp [Progress.pageCall, h]
  have hall : [Progress.pageCall number due].filter (fun c => !c.due.any (· ≤ t.now)) =
      [Progress.pageCall number due] := by simp [Progress.pageCall, h]
  unfold concludeDue become
  dsimp only
  rw [hdue, hall]
  rfl

/-- The queue of a user who asks for one page at a time, and only while there are more. -/
def Orders (pages : List (List Item)) (p : Progress) (queue : List Command) : Prop :=
  queue = [] ∨ queue = [.loadMore] ∧
    ∃ handled loaded, p = .idle handled loaded ∧ loaded < pageTotal pages

theorem Orders.hear {queue : List Command} (h : Orders pages p queue) (id : Query.Id)
    (news : List Notification) : Orders pages (p.hear id news) queue := by
  rcases h with rfl | ⟨rfl, handled, loaded, rfl, hmore⟩
  · exact Or.inl rfl
  · exact Or.inr ⟨rfl, handled, loaded, Progress.hear_of_isRanked rfl id news, hmore⟩

theorem Orders.handled_order {queue : List Command} (h : Orders pages p queue) :
    (p.order queue).handled = p.handled + queue.length := by
  rcases h with rfl | ⟨rfl, handled, loaded, rfl, hmore⟩
  · cases p <;> rfl
  · rfl

theorem concludeDue_of_nil (h : u.calls = []) : u.concludeDue = u := by
  cases u
  cases h
  rfl

/-- A service that refuses nothing takes a query back at once. -/
theorem shutDown_become (s : Running) {service : Spy} (calls : List (Call Spy Answer))
    (hswitches : service.switches = {}) :
    ∃ e : Timeline Spy, (t.become s service calls).shutDown = e ∧
      e.service = service.record (.release s.query) ∧ e.view = s.close.view ∧
      e.status = .ended ∧ e.calls = [] ∧ e.release = t.release := by
  have hwait : (QueryService.receive service (.release s.close.query)).wait = some 0 := by
    show (if service.switches.hangRelease = true then none else some 0) = _
    rw [hswitches]
    rfl
  refine ⟨_, if_pos hwait, rfl, rfl, rfl, rfl, rfl⟩

/-- What becomes of a timeline within an instant, when its session has come so far. The calls of the
tasks `unmade` are still to be made. -/
inductive Comes (route : Query.Route) (pages : List (List Item)) (delay : Nat) (t : Timeline Spy)
    (p : Progress) (unmade : List Task) (due : Nat) : Timeline Spy → Prop
  | mk {s : Running} {service : Spy} (hs : s.Stands route pages p)
      (hservice : service.Gives pages delay p.called) (hunmade : Fetches p.toMake unmade) :
      Comes route pages delay t p unmade due (t.become s service (p.calls due))

namespace Comes

theorem closing_eq (h : Comes route pages delay t p unmade due u) : u.closing = t.closing := by
  cases h
  rfl

/-- No release is called for while the session runs. -/
theorem concludeRelease_eq (h : Comes route pages delay t p unmade due u)
    (hnone : t.release = none) : u.concludeRelease = u := by
  cases h
  exact concludeRelease_of_none hnone

/-! ## Taking in -/

theorem feed {i : Input} (h : Comes route pages delay t p unmade due u)
    (hi : i.Keeps route.id p) :
    Comes route pages delay t p (unmade ++ (u.feed i).2) due (u.feed i).1 := by
  cases h with
  | mk hs hservice hunmade =>
    obtain ⟨hstands, hstarted, _⟩ := hs.keep hi
    exact .mk hstands hservice (hunmade.append_errands hstarted)

theorem feedNews {heard rest : List Notification} {n : Notification}
    (h : Comes route pages delay t p unmade due u)
    (hheard : p.isRanked = true ↔ rankedNews route.id ∈ heard)
    (hstays : StaysRanked route.id (heard ++ n :: rest)) :
    Comes route pages delay t (p.hear route.id [n]) (unmade ++ (u.feed (.notified n)).2) due
      (u.feed (.notified n)).1 := by
  cases h with
  | mk hs hservice hunmade =>
    obtain ⟨hstands, hstarted, _⟩ := hs.hear hheard hstays
    have hcalled := hservice
    rw [← Progress.apply_hear Progress.called rfl route.id [n]] at hcalled
    rw [← Progress.apply_hear (Progress.calls due) rfl route.id [n]]
    exact .mk hstands hcalled (hstarted _ hunmade)

theorem hear {heard news : List Notification} (h : Comes route pages delay t p unmade due u)
    (hheard : p.isRanked = true ↔ rankedNews route.id ∈ heard)
    (hstays : StaysRanked route.id (heard ++ news)) :
    Comes route pages delay t (p.hear route.id news)
      (unmade ++ (u.feedAll (news.map .notified)).2) due (u.feedAll (news.map .notified)).1 := by
  induction news generalizing u unmade p heard with
  | nil =>
    rw [Progress.hear_nil, List.map_nil, Timeline.feedAll, List.append_nil]
    exact h
  | cons n rest ih =>
    have hfirst := h.feedNews hheard hstays
    rw [List.append_cons] at hstays
    have hrest := ih hfirst (Progress.isRanked_hear hheard [n]) hstays
    rw [← Progress.hear_cons, List.append_assoc] at hrest
    exact hrest

theorem deadlinePassed (h : Comes route pages delay t p unmade due u) :
    Comes route pages delay t p
      (unmade ++ (if u.deadlineDue then u.feed .deadlinePassed else (u, [])).2) due
      (if u.deadlineDue then u.feed .deadlinePassed else (u, [])).1 := by
  split
  · exact h.feed .deadlinePassed
  · rw [List.append_nil]
    exact h

theorem order (hpages : pages.length < UInt32.size) {queue : List Command}
    (h : Comes route pages delay t p unmade due u) (hq : Orders pages p queue) :
    Comes route pages delay t (p.order queue) (unmade ++ (u.feedAll (queue.map .command)).2) due
      (u.feedAll (queue.map .command)).1 := by
  rcases hq with rfl | ⟨rfl, handled, loaded, rfl, hmore⟩
  · have hsame : p.order [] = p := by cases p <;> rfl
    rw [hsame, List.map_nil, Timeline.feedAll, List.append_nil]
    exact h
  · cases h with
    | mk hs hservice hunmade =>
      obtain ⟨hstands, hstarted⟩ := hs.order hpages hmore
      rw [List.map_singleton, feedAll_singleton, feed_become, hstarted]
      exact .mk hstands hservice (hunmade.append_fetch _)

/-! ## Calls -/

/-- Training and ranking are over at once. -/
theorem launch_errand {rest : List Task} {task : Task} (ht : task.IsErrand)
    (h : Comes route pages delay t p (task :: rest) due u) :
    Comes route pages delay t p rest due (u.launch task).1 ∧ (u.launch task).2 = [] := by
  cases h with
  | @mk s service hs hservice hunmade =>
    have hrest : Fetches p.toMake rest := by
      refine ⟨?_, (List.forall_mem_cons.mp hunmade.errands).2⟩
      rw [← hunmade.fetches]
      rcases ht with rfl | rfl <;> rfl
    have hrecorded := hservice.record_errand ht s.query
    obtain ⟨a, ha, hlaunched⟩ := launch_become_errand (t := t) (s := s) service (p.calls due) ht
    rw [hlaunched]
    exact ⟨.mk (hs.keep (.answered ha)).1 hrecorded hrest, rfl⟩

/-- A page is called for, and comes at once or is due later. -/
theorem launch_fetch (hpages : pages.length < UInt32.size) {rest : List Task} {number : UInt32}
    (h : Comes route pages delay t p (.fetch number :: rest) due u) :
    Comes route pages delay t (p.launched delay t.now due).1 rest (p.launched delay t.now due).2
      (u.launch (.fetch number)).1 ∧ (u.launch (.fetch number)).2 = [] := by
  cases h with
  | @mk s service hs hservice hunmade =>
    have hfetches := hunmade.fetches
    cases p with
    | unranked | awaited | idle => cases hfetches
    | asked handled loaded =>
      obtain ⟨hnumber, hnone⟩ := List.cons_eq_cons.mp hfetches
      obtain rfl : number = UInt32.ofNat (loaded + 1) := Task.fetch.inj hnumber
      have hless : loaded < pageTotal pages := hs.pager.within
      have herrands := (List.forall_mem_cons.mp hunmade.errands).2
      have hrecorded : (service.record (.page s.query (UInt32.ofNat (loaded + 1)))).Gives pages
          delay (loaded + 1) := hservice.record_fetch s.query
      have hawaited := hs.call
      by_cases hzero : delay = 0
      · obtain ⟨hstands, hstarted⟩ := hawaited.load hpages service.flags
        rw [launch_become_fetch_zero _ _ (hservice.delay.trans hzero), hrecorded.page_eq hpages hless]
        rw [Progress.launched_of_zero _ _ _ _ hzero]
        exact ⟨.mk hstands hrecorded ⟨hnone, herrands⟩, hstarted⟩
      · rw [launch_become_fetch _ _ (hservice.delay ▸ hzero), hservice.delay]
        rw [Progress.launched_of_pos _ _ _ _ hzero]
        exact ⟨.mk hawaited hrecorded ⟨hnone, herrands⟩, rfl⟩

/-- All calls are made. -/
theorem launchFrom (hpages : pages.length < UInt32.size) {fuel : Nat}
    (h : Comes route pages delay t p unmade due u) (hfuel : unmade.length ≤ fuel) :
    Comes route pages delay t (p.launched delay t.now due).1 [] (p.launched delay t.now due).2
      (launchFrom fuel u unmade) := by
  induction unmade generalizing u p due fuel with
  | nil =>
    have hsame : p.launched delay t.now due = (p, due) := by
      cases h with
      | mk hs hservice hunmade =>
        have hfetches := hunmade.fetches
        cases p with
        | asked => cases hfetches
        | unranked | awaited | idle => rfl
    have hnone : Timeline.launchFrom fuel u [] = u := by cases fuel <;> rfl
    rw [hsame, hnone]
    exact h
  | cons task rest ih =>
    obtain ⟨fuel, rfl⟩ := Nat.exists_eq_add_one_of_ne_zero
      (Nat.ne_of_gt (Nat.lt_of_lt_of_le (Nat.succ_pos _) hfuel))
    have hrest : rest.length ≤ fuel := Nat.le_of_succ_le_succ hfuel
    unfold Timeline.launchFrom
    by_cases hfetch : task.isFetch = true
    · cases task with
      | train | rank | flag | refresh => cases hfetch
      | fetch number =>
        obtain ⟨hcomes, hnone⟩ := h.launch_fetch hpages
        have hall := ih hcomes hrest
        rw [Progress.launched_launched] at hall
        dsimp only
        rw [hnone]
        exact hall
    · have herrand : task.IsErrand := by
        cases h with
        | mk _ _ hunmade =>
          exact hunmade.errands task (List.mem_cons_self ..) (Bool.eq_false_iff.mpr hfetch)
      obtain ⟨hcomes, hnone⟩ := h.launch_errand herrand
      dsimp only
      rw [hnone]
      exact ih hcomes hrest

theorem launchAll (hpages : pages.length < UInt32.size)
    (h : Comes route pages delay t p unmade due u) :
    Comes route pages delay t (p.launched delay t.now due).1 [] (p.launched delay t.now due).2
      (u.launchAll unmade) := by
  refine h.launchFrom hpages ?_
  clear h
  induction unmade with
  | nil => exact Nat.le_refl _
  | cons task rest ih =>
    have hpos := taskWeight_pos task
    show rest.length + 1 ≤ taskWeight task + rest.foldr (taskWeight · + ·) 0
    omega

/-- A page that is due comes. -/
theorem concludeDue (hpages : pages.length < UInt32.size)
    (h : Comes route pages delay t p [] due u) :
    Comes route pages delay t (p.concluded t.now due) [] due u.concludeDue := by
  cases h with
  | @mk s service hs hservice hunmade =>
    cases p with
    | unranked | idle => exact .mk hs hservice hunmade
    | asked => cases hunmade.fetches
    | awaited handled loaded =>
      have hless : loaded < pageTotal pages := hs.pager.within
      have hwaiting : Progress.calls due (.awaited handled loaded) =
          [Progress.pageCall (UInt32.ofNat (loaded + 1)) due] := rfl
      by_cases hdue : due ≤ t.now
      · obtain ⟨hstands, hstarted⟩ := hs.load hpages service.flags
        rw [Progress.concluded_of_le _ _ hdue, hwaiting, concludeDue_become_of_le _ _ _ hdue,
          hservice.page_eq hpages hless, feed_become, hstarted]
        exact .mk hstands hservice .nil
      · rw [Progress.concluded_of_lt _ _ (Nat.lt_of_not_le hdue), hwaiting,
          concludeDue_become_of_lt _ _ _ (Nat.lt_of_not_le hdue)]
        exact .mk hs hservice hunmade

end Comes

/-! ## Instants -/

theorem become_self {s : Running} (hs : t.status = .running s) (hv : t.view = s.view) :
    t.become s t.service t.calls = t := by
  cases t
  cases hs
  cases hv
  rfl

/-- A timeline at rest whose session has been told `news`, has heard all but what is in its inbox,
and has come so far. -/
structure Resting (route : Query.Route) (pages : List (List Item)) (delay : Nat)
    (news : List Notification) (closing : Bool) (p : Progress) (due : Nat) (t : Timeline Spy) :
    Prop where
  running : ∃ s, t.status = .running s ∧ t.view = s.view ∧ s.Stands route pages p
  service : t.service.Gives pages delay p.called
  calls : t.calls = p.calls due
  made : p.toMake = []
  heard : ∃ heard, news = heard ++ t.inbox ∧ (p.isRanked = true ↔ rankedNews route.id ∈ heard)
  stays : StaysRanked route.id news
  orders : Orders pages p t.queue
  sent : t.sent = p.handled + t.queue.length
  capacity : 1 ≤ t.capacity
  closing : t.closing = closing
  release : t.release = none
  soon : due ≤ t.now + delay

namespace Resting

variable {news : List Notification} {closing : Bool}

theorem view_eq (h : t.Resting route pages delay news closing p due) :
    t.view.Shows pages p ∧ t.view.closed = false ∧ t.view.route = route := by
  obtain ⟨s, _, hview, hs⟩ := h.running
  rw [hview]
  exact hs.view_eq

theorem setClock (h : t.Resting route pages delay news closing p due) (instant : Nat) :
    (t.setClock instant).Resting route pages delay news closing p due :=
  { h with soon := Nat.le_trans h.soon (Nat.add_le_add_right (Nat.le_max_left ..) delay) }

/-- Everything that has been sent is taken in. -/
theorem takeIn (hpages : pages.length < UInt32.size)
    (h : t.Resting route pages delay news closing p due) :
    let q := ((p.hear route.id t.inbox).order t.queue).launched delay t.now due
    ∃ u : Timeline Spy,
      Comes route pages delay { t with inbox := [], queue := [] } q.1 [] q.2 u ∧
        t.takeIn = if closing then u.shutDown else u := by
  intro q
  obtain ⟨s, hstatus, hview, hs⟩ := h.running
  obtain ⟨heard, hnews, hheard⟩ := h.heard
  have hstays := h.stays
  rw [hnews] at hstays
  have hempty : Comes route pages delay { t with inbox := [], queue := [] } p [] due
      { t with inbox := [], queue := [] } := by
    have hself : ({ t with inbox := [], queue := [] } : Timeline Spy).become s t.service t.calls =
        { t with inbox := [], queue := [] } := become_self hstatus hview
    rw [← hself, h.calls]
    refine .mk hs h.service ?_
    rw [h.made]
    exact .nil
  have hcommanded := ((hempty.hear hheard hstays).deadlinePassed).order hpages
    (h.orders.hear route.id t.inbox)
  have hlaunched := hcommanded.launchAll hpages
  have htaken (u : Timeline Spy)
      (hu : Comes route pages delay { t with inbox := [], queue := [] } q.1 [] q.2 u)
      (ht : t.takeIn = if u.closing then u.shutDown else u) :
      ∃ u : Timeline Spy,
        Comes route pages delay { t with inbox := [], queue := [] } q.1 [] q.2 u ∧
          t.takeIn = if closing then u.shutDown else u :=
    ⟨u, hu, by rw [ht, hu.closing_eq, ← h.closing]⟩
  exact htaken _ hlaunched rfl

/-- **Within an instant** the session gets as far as it can without waiting. -/
theorem settle (hpages : pages.length < UInt32.size)
    (h : t.Resting route pages delay news false p due) :
    let q := ((p.hear route.id t.inbox).order t.queue).settled delay t.now due
    t.settle.Resting route pages delay news false q.1 q.2 ∧ t.settle.now = t.now ∧
      t.settle.inbox = [] ∧ t.settle.queue = [] := by
  intro q
  obtain ⟨u, hu, htaken⟩ := h.takeIn hpages
  have hconcluded := hu.concludeDue hpages
  have hsettled : t.settle = u.concludeDue := by
    unfold Timeline.settle
    rw [htaken, if_neg Bool.false_ne_true]
    exact hconcluded.concludeRelease_eq h.release
  obtain ⟨hranked, hhandled⟩ := Progress.settled_kept delay t.now due
    ((p.hear route.id t.inbox).order t.queue)
  rw [Progress.isRanked_order] at hranked
  rw [hsettled]
  generalize u.concludeDue = w at hconcluded
  cases hconcluded with
  | @mk s service hs hservice hunmade =>
    obtain ⟨heard, hnews, hheard⟩ := h.heard
    refine ⟨
      { running := ⟨s, rfl, rfl, hs⟩
        service := hservice
        calls := rfl
        made := hunmade.fetches.symm
        heard := ⟨news, (List.append_nil news).symm, ?_⟩
        stays := h.stays
        orders := Or.inl rfl
        sent := ?_
        capacity := h.capacity
        closing := h.closing
        release := h.release
        soon := Progress.settled_due_le h.soon _ }, rfl, rfl, rfl⟩
    · show q.1.isRanked = true ↔ _
      rw [hranked, hnews]
      exact Progress.isRanked_hear hheard t.inbox
    · show t.sent = q.1.handled + 0
      rw [hhandled, (h.orders.hear route.id t.inbox).handled_order, Progress.apply_hear Progress.handled rfl, h.sent]
      rfl

/-- The clock moves on, and what is due then comes. -/
theorem moveTo (hpages : pages.length < UInt32.size)
    (h : t.Resting route pages delay news false p due) (instant : Nat) :
    let q := ((p.hear route.id t.inbox).order t.queue).settled delay (max t.now instant) due
    (t.moveTo instant).Resting route pages delay news false q.1 q.2 ∧
      (t.moveTo instant).now = max t.now instant ∧ (t.moveTo instant).inbox = [] ∧
      (t.moveTo instant).queue = [] :=
  (h.setClock instant).settle hpages

/-! ## Waiting for a page -/

theorem nextDue_awaited {handled loaded : Nat}
    (h : t.Resting route pages delay news false (.awaited handled loaded) due) :
    t.nextDue = some due := by
  obtain ⟨s, hstatus, _, hs⟩ := h.running
  have htimer : s.lifecycle.timerArmed = false := hs.timer rfl
  unfold nextDue
  rw [hstatus, h.calls, h.release]
  dsimp only
  rw [htimer]
  rfl

theorem glance_of_none {β : Type} {look : View → Option β}
    (h : t.Resting route pages delay news closing p due) (hnone : look t.view = none) :
    glance look t = none := by
  obtain ⟨s, hstatus, _, _⟩ := h.running
  unfold glance
  rw [hnone, hstatus]

section

variable {β : Type} {look : View → Option β} {value : View → β} {handled loaded : Nat}

/-- Who waits for a page that is due in time finds it. -/
theorem awaitFrom_page (hpages : pages.length < UInt32.size) {fuel : Nat} {last : Option Nat}
    (h : t.Resting route pages delay news false p due) (hin : t.inbox = []) (hq : t.queue = [])
    (hp : p = .idle handled (loaded + 1) ∨
      p = .awaited handled loaded ∧ last.all (due < ·) = true ∧ look t.view = none)
    (hfound : ∀ v : View, v.Shows pages (.idle handled (loaded + 1)) → v.closed = false →
      look v = some (value v)) :
    ∃ (u : Timeline Spy) (due : Nat), awaitFrom look (fuel + 1) t last = (u, .found (value u.view)) ∧
      u.Resting route pages delay news false (.idle handled (loaded + 1)) due ∧ u.inbox = [] ∧
      u.queue = [] := by
  rcases hp with rfl | ⟨rfl, htime, hnone⟩
  · obtain ⟨hview, hopen, _⟩ := h.view_eq
    exact ⟨t, due, awaitFrom_of_found (hfound _ hview hopen) _ _, h, hin, hq⟩
  · obtain ⟨hmoved, _, hin', hq'⟩ := h.moveTo hpages due
    have hcomes : (((Progress.awaited handled loaded).hear route.id t.inbox).order t.queue).settled
        delay (max t.now due) due = (.idle handled (loaded + 1), due) := by
      rw [hin, hq, Progress.hear_nil]
      unfold Progress.settled
      exact congrArg (·, due) (Progress.concluded_of_le handled loaded (Nat.le_max_right ..))
    rw [hcomes] at hmoved
    obtain ⟨hview, hopen, _⟩ := hmoved.view_eq
    refine ⟨_, due, ?_, hmoved, hin', hq'⟩
    rw [awaitFrom_of_due (h.glance_of_none hnone) h.nextDue_awaited htime]
    exact awaitFrom_of_found (hfound _ hview hopen) _ _

/-- **A page that is asked for comes**, and who waits for it finds it, unless the wait is limited to
less than the delay. -/
theorem await_page (hpages : pages.length < UInt32.size) (value : View → β) (limit : Option Nat)
    (h : t.Resting route pages delay news false p due)
    (hp : (p.hear route.id t.inbox).order t.queue = .asked handled loaded ∨
      (p.hear route.id t.inbox).order t.queue = .awaited handled loaded)
    (hnow : look t.view = none)
    (hnone : ∀ v : View, v.Shows pages (.awaited handled loaded) → v.closed = false →
      look v = none)
    (hfound : ∀ v : View, v.Shows pages (.idle handled (loaded + 1)) → v.closed = false →
      look v = some (value v)) :
    (∃ last, limit = some last ∧ last ≤ delay ∧ (t.await look limit).2 = .timedOut) ∨
      ∃ (u : Timeline Spy) (due : Nat), t.await look limit = (u, .found (value u.view)) ∧
        u.Resting route pages delay news false (.idle handled (loaded + 1)) due ∧ u.inbox = [] ∧
        u.queue = [] := by
  by_cases hlong : limit = some 0
  · refine Or.inl ⟨0, hlong, Nat.zero_le delay, ?_⟩
    rw [hlong, await_of_zero (h.glance_of_none hnow)]
  · rw [await_of_none (h.glance_of_none hnow) hlong]
    obtain ⟨hsettled, _, hin, hq⟩ := h.settle hpages
    have hloading := Progress.settled_loading delay t.now due hp
    generalize ((p.hear route.id t.inbox).order t.queue).settled delay t.now due = q
      at hsettled hloading
    obtain ⟨q, due⟩ := q
    dsimp only at hsettled hloading
    rcases hloading with rfl | rfl
    · exact Or.inr (hsettled.awaitFrom_page hpages hin hq (Or.inl rfl) hfound)
    · obtain ⟨hview, hopen, _⟩ := hsettled.view_eq
      have hlook := hnone _ hview hopen
      by_cases htime : (limit.map (t.settle.now + ·)).all (due < ·) = true
      · exact Or.inr
          (hsettled.awaitFrom_page hpages hin hq (Or.inr ⟨rfl, htime, hlook⟩) hfound)
      · have hlate := awaitFrom_of_late (hsettled.glance_of_none hlook) hsettled.nextDue_awaited htime
        have hsoon := hsettled.soon
        cases limit with
        | none => exact absurd rfl htime
        | some last =>
          simp only [Option.map_some, Option.all_some, decide_eq_true_eq] at htime
          exact Or.inl ⟨last, rfl, by omega, hlate _⟩

end

/-! ## Asking for a page -/

/-- Who may ask for a further page is heard. -/
theorem loadMore {handled loaded : Nat}
    (h : t.Resting route pages delay news closing (.idle handled loaded) due) (hq : t.queue = [])
    (hmore : loaded < pageTotal pages) :
    ∃ u : Timeline Spy, t.loadMore = (u, .ok ()) ∧
      u.Resting route pages delay news closing (.idle handled loaded) due ∧
      u.queue = [.loadMore] ∧ u.sent = handled + 1 ∧ u.view = t.view := by
  obtain ⟨s, hstatus, _, _⟩ := h.running
  have hranked : t.view.isRanked = true := h.view_eq.1.ranked
  have hroom : ¬ t.capacity ≤ t.queue.length := by
    have := h.capacity
    rw [hq, List.length_nil]
    omega
  have hsent : t.sent = handled := by
    have := h.sent
    rwa [hq] at this
  refine ⟨{ t with queue := [.loadMore], sent := handled + 1 }, ?_, ?_, rfl, rfl, rfl⟩
  · unfold Timeline.loadMore send
    rw [if_pos hranked, if_neg hroom]
    dsimp only
    rw [hstatus, hq, hsent]
    rfl
  · exact
      { h with
        orders := Or.inr ⟨rfl, handled, loaded, rfl, hmore⟩
        sent := rfl }

/-! ## The end -/

/-- Who closes a session that is fetching nothing gets a view of all that is loaded. The query is
given back at once. -/
theorem closeAndRelease (hpages : pages.length < UInt32.size) {handled loaded : Nat}
    (h : t.Resting route pages delay news false (.idle handled loaded) due) (hq : t.queue = [])
    (limit : Nat) :
    ∃ u : Timeline Spy, t.closeAndRelease limit = (u, .ok u.view) ∧ u.release = none ∧
      u.service.fetched = pageNumbers loaded ∧ u.view.Shows pages (.idle handled loaded) ∧
      u.view.route = route := by
  have hdropped : t.drop.Resting route pages delay news true (.idle handled loaded) due :=
    { h with closing := rfl }
  obtain ⟨u, hu, htaken⟩ := hdropped.takeIn hpages
  have hkept : (((Progress.idle handled loaded).hear route.id t.drop.inbox).order
      t.drop.queue).launched delay t.drop.now due = (.idle handled loaded, due) := by
    have hqueue : t.drop.queue = [] := hq
    rw [hqueue, Progress.hear_of_isRanked rfl]
    rfl
  rw [hkept] at hu
  rw [if_pos rfl] at htaken
  have hnone : t.release = none := h.release
  cases hu with
  | @mk s service hs hservice hunmade =>
    obtain ⟨e, hended, hservice', hview, hstatus, hcalls, hrelease⟩ :=
      shutDown_become (t := { t.drop with inbox := [], queue := [] }) s
        (Progress.calls due (.idle handled loaded)) hservice.switches
    have hsettled : t.drop.settle = e := by
      unfold Timeline.settle
      rw [htaken, hended, concludeDue_of_nil hcalls,
        concludeRelease_of_none (hrelease.trans hnone)]
    have hclosed : t.close = (e, .ok e.view) := by
      unfold Timeline.close
      rw [hsettled]
      dsimp only
      rw [hstatus]
    refine ⟨e, ?_, hrelease.trans hnone, ?_, ?_, ?_⟩
    · unfold Timeline.closeAndRelease
      rw [hclosed]
      dsimp only
      rw [hrelease.trans hnone]
    · rw [hservice']
      exact hservice.fetched
    · rw [hview]
      exact hs.close_shows.1
    · rw [hview]
      exact hs.close_shows.2

end Resting

/-! ## What a session is told -/

/-- The timelines of a session that is told some news, in this order and at whatever times, and of
which its user asks nothing. -/
inductive Attended {σ : Type} [QueryService σ] (origin : σ) (phrase : Query.Phrase)
    (settings : Settings) : List Notification → Timeline σ → Prop
  | start {t : Timeline σ} (h : start origin phrase settings = .ok t) :
      Attended origin phrase settings [] t
  | notify {news : List Notification} {t : Timeline σ} (n : Notification)
      (h : Attended origin phrase settings news t) (htold : (t.notify n).2 = true) :
      Attended origin phrase settings (news ++ [n]) (t.notify n).1
  | disconnect {news : List Notification} {t : Timeline σ}
      (h : Attended origin phrase settings news t) :
      Attended origin phrase settings news t.disconnect
  | pass {news : List Notification} {t : Timeline σ} (milliseconds : Nat)
      (h : Attended origin phrase settings news t) :
      Attended origin phrase settings news (t.pass milliseconds)

/-- Nothing is loaded but the first page. -/
def Opening (p : Progress) : Prop := p = .unranked ∨ p = .awaited 0 0 ∨ p = .idle 0 1

theorem Opening.settled (h : Opening p) (id : Query.Id) (news : List Notification)
    (delay now due : Nat) : Opening (((p.hear id news).order []).settled delay now due).1 := by
  have hloading {q : Progress} (hq : q = .asked 0 0 ∨ q = .awaited 0 0) :
      Opening (q.settled delay now due).1 :=
    Or.inr (Progress.settled_loading delay now due hq).symm
  rcases h with rfl | rfl | rfl
  · unfold Progress.hear
    split
    · exact hloading (Or.inl rfl)
    · exact Or.inl rfl
  · rw [Progress.hear_of_isRanked rfl]
    exact hloading (Or.inr rfl)
  · rw [Progress.hear_of_isRanked rfl]
    exact Or.inr (Or.inr rfl)

/-- A timeline at rest whose session has been told `news` and asked nothing. -/
def Opens (route : Query.Route) (pages : List (List Item)) (delay : Nat)
    (news : List Notification) (t : Timeline Spy) : Prop :=
  ∃ p due, t.Resting route pages delay news false p due ∧ t.queue = [] ∧ Opening p

namespace Opens

variable {news : List Notification}

theorem settle (hpages : pages.length < UInt32.size) (h : t.Opens route pages delay news) :
    t.settle.Opens route pages delay news := by
  obtain ⟨p, due, hresting, hq, hopening⟩ := h
  obtain ⟨hsettled, _, _, hq'⟩ := hresting.settle hpages
  rw [hq] at hsettled
  exact ⟨_, _, hsettled, hq', hopening.settled route.id t.inbox delay t.now due⟩

theorem setClock (h : t.Opens route pages delay news) (instant : Nat) :
    (t.setClock instant).Opens route pages delay news := by
  obtain ⟨p, due, hresting, hq, hopening⟩ := h
  exact ⟨p, due, hresting.setClock instant, hq, hopening⟩

theorem notify (h : t.Opens route pages delay news) {n : Notification}
    (hstays : StaysRanked route.id (news ++ [n])) (htold : (t.notify n).2 = true) :
    (t.notify n).1.Opens route pages delay (news ++ [n]) := by
  obtain ⟨p, due, hresting, hq, hopening⟩ := h
  obtain ⟨heard, hnews, hheard⟩ := hresting.heard
  rcases t.notify_cases n with hsent | hrefused
  · rw [hsent]
    exact ⟨p, due,
      { hresting with
        running := hresting.running
        heard := ⟨heard, by rw [hnews, List.append_assoc], hheard⟩
        stays := hstays }, hq, hopening⟩
  · rw [hrefused] at htold
    cases htold

end Opens

theorem Attended.opens (hpages : pages.length < UInt32.size) {id : Query.Id}
    {phrase : Query.Phrase} {settings : Settings} {news : List Notification}
    (h : t.Attended { id, pages, delay } phrase settings news) (hstays : StaysRanked id news) :
    t.Opens ⟨id, phrase⟩ pages delay news := by
  induction h with
  | start hstart =>
    obtain ⟨_, _, _, _, _, hopening, hsubmission, _, rfl⟩ := Timeline.start_eq_ok hstart
    cases hopening
    cases hsubmission
    refine ⟨.unranked, 0, ?_, rfl, Or.inl rfl⟩
    exact
      { running := ⟨.init ⟨id, phrase⟩, rfl, rfl, Running.init_stands ⟨id, phrase⟩ pages⟩
        service := ⟨rfl, rfl, rfl, rfl⟩
        calls := rfl
        made := rfl
        heard := ⟨[], rfl, iff_of_false nofun nofun⟩
        stays := hstays
        orders := Or.inl rfl
        sent := rfl
        capacity := Nat.le_max_right ..
        closing := rfl
        release := rfl
        soon := Nat.zero_le _ }
  | notify n h htold ih => exact (ih hstays.of_append).notify hstays htold
  | disconnect h ih =>
    obtain ⟨p, due, hresting, hq, hopening⟩ := ih hstays
    exact ⟨p, due, { hresting with }, hq, hopening⟩
  | pass milliseconds h ih =>
    exact (elapses_pass ..).invariant (fun h => h.settle hpages) (fun i h => h.setClock i) (ih hstays)

end Timeline

end RankedSearch.Session
