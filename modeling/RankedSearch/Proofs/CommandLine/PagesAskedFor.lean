import RankedSearch.CommandLine.Run
import RankedSearch.Proofs.Session.PagesOnClock

/-! # The pages that were asked for

A run that is asked for so many pages of a query which comes to be ranked for good loads exactly
these, or all that there are, in order and each once. The run acts on the views of its session alone;
what each of its questions finds there is said first. -/
namespace RankedSearch.CommandLine

open RankedSearch.Session
open RankedSearch.Service (Spy)

/-! ## What a run reads off a view -/

section

variable {pages : List (List Item)} {p : Progress} {v : View}

/-- There is no telling about the first page before it has come. -/
theorem firstPage_eq_none (h : v.Shows pages p) (hopen : v.closed = false) (hp : p.loaded = 0)
    (hloading : p.isRanked = p.loading) : firstPage v = none := by
  have hcurrent : ¬ 1 ≤ v.currentPage := by
    rw [h.currentPage, hp]
    decide
  unfold firstPage
  rw [if_neg hcurrent, hopen, if_neg Bool.false_ne_true]
  split
  · refine if_neg ?_
    rintro ⟨hstage, hidle⟩
    have hranked : p.isRanked = true := h.ranked.symm.trans (v.isRanked_iff.mpr hstage)
    exact hidle (h.loading.trans (hloading.symm.trans hranked))
  · rfl

theorem firstPage_of_loaded (hpages : pages.length < UInt32.size) (h : v.Shows pages p)
    (hfirst : 1 ≤ p.loaded) (hall : p.loaded ≤ pageTotal pages) :
    firstPage v = some (.ok ()) := by
  refine if_pos ?_
  rw [UInt32.le_iff_toNat_le, h.currentPage, toNat_pageNumber hpages hall]
  exact hfirst

theorem hasMorePages_iff (hpages : pages.length < UInt32.size) (h : v.Shows pages p)
    (hfirst : 1 ≤ p.loaded) (hall : p.loaded ≤ pageTotal pages) :
    v.hasMorePages = true ↔ p.loaded < pageTotal pages := by
  have hcount := h.pageCount (Nat.ne_of_gt hfirst)
  have hzero : v.currentPage ≠ 0 := by
    rw [h.currentPage, Ne, ← UInt32.toNat_inj, toNat_pageNumber hpages hall]
    exact Nat.ne_of_gt hfirst
  unfold View.hasMorePages
  rw [Bool.or_eq_true, decide_eq_true_iff, decide_eq_true_iff, or_iff_right hzero, hcount,
    h.currentPage]
  exact pageNumber_lt_iff hpages hall (Nat.le_refl _)

/-- A view that counts all commands is synced if no page is on its way. -/
theorem isSynced_iff (h : v.Shows pages p) (sent : Nat) :
    Timeline.isSynced sent v = true ↔ sent ≤ p.handled ∧ p.loading = false := by
  unfold Timeline.isSynced
  rw [h.handled, h.pending, h.loading]
  simp

/-- Who waits until all commands have been handled goes on waiting while a page is on its way. -/
theorem lookFor_isSynced_eq_none (h : v.Shows pages p) (hopen : v.closed = false) {sent : Nat}
    (hearly : p.handled < sent ∨ p.loading = true) :
    Timeline.lookFor (Timeline.isSynced sent) v = none := by
  have hwaits : ¬ Timeline.isSynced sent v = true := by
    rw [isSynced_iff h, not_and_or, Nat.not_le, Bool.not_eq_false]
    exact hearly
  unfold Timeline.lookFor
  rw [if_neg hwaits, hopen, if_neg Bool.false_ne_true]

theorem lookFor_isSynced_of_idle {handled loaded : Nat} (h : v.Shows pages (.idle handled loaded)) :
    Timeline.lookFor (Timeline.isSynced handled) v = some (.ok v) :=
  if_pos ((isSynced_iff h handled).mpr ⟨Nat.le_refl handled, rfl⟩)

end

/-! ## Driving a session -/

section

variable {route : Query.Route} {pages : List (List Item)} {delay due : Nat}
  {news : List Notification} {t : Timeline Spy}

/-- The first page comes, or the wait was limited to less than its delay. -/
theorem waitForFirstPage_cases (hpages : pages.length < UInt32.size)
    (h : t.Opens route pages delay news) (hranked : rankedNews route.id ∈ news)
    (seconds : UInt64) :
    (seconds.toNat * 1000 ≤ delay ∧
        (waitForFirstPage t seconds).2 = .error (.notRanked seconds)) ∨
      ∃ (u : Timeline Spy) (due : Nat), waitForFirstPage t seconds = (u, .ok ()) ∧
        u.Resting route pages delay news false (.idle 0 1) due ∧ u.queue = [] := by
  obtain ⟨p, due, hresting, hq, hopening⟩ := h
  obtain ⟨hview, hopen, _⟩ := hresting.view_eq
  obtain ⟨heard, hnews, hheard⟩ := hresting.heard
  have htotal : 1 ≤ pageTotal pages := Nat.le_max_right ..
  have hawait (hnone : firstPage t.view = none)
      (hp : (p.hear route.id t.inbox).order t.queue = .asked 0 0 ∨
        (p.hear route.id t.inbox).order t.queue = .awaited 0 0) :
      (seconds.toNat * 1000 ≤ delay ∧
          (waitForFirstPage t seconds).2 = .error (.notRanked seconds)) ∨
        ∃ (u : Timeline Spy) (due : Nat), waitForFirstPage t seconds = (u, .ok ()) ∧
          u.Resting route pages delay news false (.idle 0 1) due ∧ u.queue = [] := by
    rcases hresting.await_page hpages (fun _ => Except.ok ()) (some (seconds.toNat * 1000)) hp hnone
      (fun v hv hopen => firstPage_eq_none hv hopen rfl rfl)
      (fun v hv _ => firstPage_of_loaded hpages hv (Nat.le_refl 1) htotal) with
      ⟨_, ⟨⟩, hlong, hlate⟩ | ⟨u, due, hfound, hu, _, hq⟩
    · refine Or.inl ⟨hlong, ?_⟩
      generalize hwaited : t.await firstPage _ = waited at hlate
      obtain ⟨u, outcome⟩ := waited
      obtain rfl : outcome = .timedOut := hlate
      unfold waitForFirstPage
      rw [hwaited]
    · refine Or.inr ⟨u, due, ?_, hu, hq⟩
      unfold waitForFirstPage
      rw [hfound]
  rcases hopening with rfl | rfl | rfl
  · have htold : rankedNews route.id ∈ t.inbox := by
      rw [hnews, List.mem_append] at hranked
      exact hranked.resolve_left fun hmem => Bool.false_ne_true (hheard.mpr hmem)
    refine hawait (firstPage_eq_none hview hopen rfl rfl) (Or.inl ?_)
    rw [hq, Progress.hear, if_pos ⟨rfl, htold⟩]
    rfl
  · refine hawait (firstPage_eq_none hview hopen rfl rfl) (Or.inr ?_)
    rw [hq, Progress.hear_of_isRanked rfl]
    rfl
  · refine Or.inr ⟨t, due, ?_, hresting, hq⟩
    unfold waitForFirstPage
    rw [Timeline.await_of_found (firstPage_of_loaded hpages hview (Nat.le_refl 1) htotal)]

/-- A page that is there to be loaded moves the cursor. -/
theorem loadPage_ok (hpages : pages.length < UInt32.size) {handled loaded : Nat}
    (h : t.Resting route pages delay news false (.idle handled loaded) due) (hq : t.queue = [])
    (hmore : loaded < pageTotal pages) :
    ∃ (u : Timeline Spy) (due : Nat), loadPage t = (u, .ok ()) ∧
      u.Resting route pages delay news false (.idle (handled + 1) (loaded + 1)) due ∧
      u.queue = [] := by
  obtain ⟨sent, hsend, hsent, hqueue, hcount, hsame⟩ := h.loadMore hq hmore
  have hordered : ((Progress.idle handled loaded).hear route.id sent.inbox).order sent.queue =
      .asked (handled + 1) loaded := by
    rw [hqueue, Progress.hear_of_isRanked rfl]
    rfl
  obtain ⟨hview, hopen, _⟩ := hsent.view_eq
  obtain ⟨_, ⟨⟩, _⟩ | ⟨u, due, hfound, hu, _, hempty⟩ := hsent.await_page hpages
    (fun v => Except.ok v) none (Or.inl hordered)
    (lookFor_isSynced_eq_none hview hopen (Or.inl (Nat.lt_succ_self handled)))
    (fun v hv hopen => lookFor_isSynced_eq_none hv hopen (Or.inr rfl))
    (fun v hv _ => lookFor_isSynced_of_idle hv)
  refine ⟨u, due, ?_, hu, hempty⟩
  have hcaught : catchUp sent = (u, .ok u.view) := by
    unfold catchUp Timeline.sync Timeline.awaitView
    rw [hcount, hfound]
  have hmoved : u.view.currentPage ≠ t.view.currentPage := by
    rw [hu.view_eq.1.currentPage, h.view_eq.1.currentPage]
    exact pageNumber_succ_ne hpages hmore
  unfold loadPage
  dsimp only
  rw [hsend]
  dsimp only
  rw [hcaught]
  dsimp only
  rw [if_neg hmoved]

/-- Pages are loaded as long as there are any and they are asked for. -/
theorem loadPages_ok (hpages : pages.length < UInt32.size) {handled loaded : Nat}
    (h : t.Resting route pages delay news false (.idle handled loaded) due) (hq : t.queue = [])
    (hfirst : 1 ≤ loaded) (hall : loaded ≤ pageTotal pages) (count : Nat) :
    ∃ (u : Timeline Spy) (handled due : Nat), loadPages count t = (u, .ok ()) ∧
      u.Resting route pages delay news false
        (.idle handled (min (loaded + count) (pageTotal pages))) due ∧
      u.queue = [] := by
  induction count generalizing t handled loaded due with
  | zero =>
    refine ⟨t, handled, due, rfl, ?_, hq⟩
    rw [Nat.add_zero, Nat.min_eq_left hall]
    exact h
  | succ count ih =>
    have hiff := hasMorePages_iff hpages h.view_eq.1 hfirst hall
    unfold loadPages
    by_cases hmore : loaded < pageTotal pages
    · obtain ⟨u, due, hloaded, hu, hempty⟩ := loadPage_ok hpages h hq hmore
      obtain ⟨w, handled', due', hrest, hw, hqw⟩ := ih hu hempty (Nat.le_add_left ..) hmore
      rw [if_pos (hiff.mpr hmore), hloaded]
      rw [Nat.add_assoc, Nat.add_comm 1 count] at hw
      exact ⟨w, handled', due', hrest, hw, hqw⟩
    · rw [if_neg fun hyes => hmore (hiff.mp hyes)]
      refine ⟨t, handled, due, rfl, ?_, hq⟩
      have hsame : min (loaded + (count + 1)) (pageTotal pages) = loaded := by omega
      rw [hsame]
      exact h

/-- How many pages a run loads. -/
def pagesLoaded (pages : List (List Item)) (args : Arguments) : Nat :=
  min (max args.pages.toNat 1) (pageTotal pages)

theorem drive_cases (hpages : pages.length < UInt32.size) (h : t.Opens route pages delay news)
    (hranked : rankedNews route.id ∈ news) {args : Arguments}
    (htail : args.tailDistractors = false) :
    (args.waitSeconds.toNat * 1000 ≤ delay ∧
        (drive t args).2 = .error (.notRanked args.waitSeconds)) ∨
      ∃ (u : Timeline Spy) (handled due : Nat), drive t args = (u, .ok ()) ∧
        u.Resting route pages delay news false (.idle handled (pagesLoaded pages args)) due ∧
        u.queue = [] := by
  rcases waitForFirstPage_cases hpages h hranked args.waitSeconds with
    ⟨hlong, hlate⟩ | ⟨t, due, hwaited, ht, hq⟩
  · refine Or.inl ⟨hlong, ?_⟩
    generalize hwaited : waitForFirstPage t args.waitSeconds = waited at hlate
    obtain ⟨u, result⟩ := waited
    obtain rfl : result = .error (.notRanked args.waitSeconds) := hlate
    unfold drive
    rw [hwaited]
  · obtain ⟨u, handled, due, hloaded, hu, hqu⟩ := loadPages_ok hpages ht hq (Nat.le_refl 1)
      (Nat.le_max_right ..) (args.pages.toNat - 1)
    have hcount : min (1 + (args.pages.toNat - 1)) (pageTotal pages) = pagesLoaded pages args := by
      unfold pagesLoaded
      omega
    rw [hcount] at hu
    refine Or.inr ⟨u, handled, due, ?_, hu, hqu⟩
    unfold drive
    rw [hwaited]
    dsimp only
    rw [hloaded]
    dsimp only
    rw [htail, if_neg Bool.false_ne_true]

end

/-- The first `count` pages of a query have been read, in order and each once, and a view shows
them. -/
structure Delivered (route : Query.Route) (pages : List (List Item)) (count : Nat) (service : Spy)
    (v : View) : Prop where
  fetched : service.fetched = pageNumbers count
  paths : v.items.map (·.path) = (pages.take count).flatten.map (·.path)
  currentPage : v.currentPage = UInt32.ofNat count
  pageCount : v.pageCount = UInt32.ofNat (max pages.length 1)
  route : v.route = route

theorem Delivered.of_shows {route : Query.Route} {pages : List (List Item)} {handled count : Nat}
    {service : Spy} {v : View} (hfetched : service.fetched = pageNumbers count)
    (h : v.Shows pages (.idle handled count)) (hroute : v.route = route) (hcount : 1 ≤ count) :
    Delivered route pages count service v :=
  ⟨hfetched, h.items, h.currentPage, h.pageCount (Nat.ne_of_gt hcount), hroute⟩

theorem one_le_pagesLoaded (pages : List (List Item)) (args : Arguments) :
    1 ≤ pagesLoaded pages args := by
  unfold pagesLoaded pageTotal
  omega

section

variable {id : Query.Id} {pages : List (List Item)} {delay : Nat} {phrase : Query.Phrase}
  {settings : Settings} {news : List Notification} {t : Timeline Spy} {args : Arguments}

/-- A session that is told the news before it is driven, with a while between any two of them. The
run loads its pages, or it gives up waiting for the first because that takes too long. -/
theorem drive_attended (hpages : pages.length < UInt32.size)
    (h : t.Attended { id, pages, delay } phrase settings news) (hranked : rankedNews id ∈ news)
    (hstays : StaysRanked id news) (htail : args.tailDistractors = false) (limit : Nat) :
    (args.waitSeconds.toNat * 1000 ≤ delay ∧
        (drive t args).2 = .error (.notRanked args.waitSeconds)) ∨
      ∃ u w : Timeline Spy, drive t args = (u, .ok ()) ∧
        u.closeAndRelease limit = (w, .ok w.view) ∧ w.release = none ∧
        Delivered ⟨id, phrase⟩ pages (pagesLoaded pages args) u.service u.view ∧
        Delivered ⟨id, phrase⟩ pages (pagesLoaded pages args) w.service w.view := by
  refine (drive_cases hpages (h.opens hpages hstays) hranked htail).imp_right ?_
  rintro ⟨u, handled, due, hdriven, hu, hq⟩
  obtain ⟨w, hclosed, hrelease, hfetched, hlast, hroute⟩ := hu.closeAndRelease hpages hq limit
  obtain ⟨hview, _, hsame⟩ := hu.view_eq
  have hcount := one_le_pagesLoaded pages args
  exact ⟨u, w, hdriven, hclosed, hrelease, .of_shows hu.service.fetched hview hsame hcount,
    .of_shows hfetched hlast hroute hcount⟩

/-- The session of a whole run is told all news at its start. -/
theorem attended_notifyAll (h : t.Attended { id, pages, delay } phrase settings news)
    (hrunning : ∃ s, t.status = .running s) (hopen : t.channelOpen = true)
    (more : List Notification) :
    (more.foldl (fun t n => (t.notify n).1) t).Attended { id, pages, delay } phrase settings
      (news ++ more) := by
  induction more generalizing t news with
  | nil =>
    rw [List.append_nil]
    exact h
  | cons n rest ih =>
    obtain ⟨s, hs⟩ := hrunning
    have hsent := Timeline.notify_of_open hs hopen n
    have htold := h.notify n (by rw [hsent])
    rw [hsent] at htold
    rw [List.append_cons, List.foldl_cons, hsent]
    exact ih htold ⟨s, hs⟩ hopen

theorem runSession_loads (hpages : pages.length < UInt32.size) (hranked : rankedNews id ∈ news)
    (hstays : StaysRanked id news) (htail : args.tailDistractors = false)
    (hlimit : delay < args.waitSeconds.toNat * 1000) (plan : Plan)
    (hqueue : plan.settings.commandBuffer ≤ Settings.maxBuffer) (channelOpen : Bool) :
    let outcome := runSession args plan ({ id, pages, delay } : Spy) news channelOpen
    outcome.returned = true ∧ outcome.fault = none ∧ outcome.releasePending = false ∧
      ∃ v, Delivered ⟨id, plan.phrase⟩ pages (pagesLoaded pages args) outcome.service v ∧
        outcome.lines = v.route.toPath :: report v args.hideFalseNegatives := by
  intro outcome
  obtain ⟨started, hstart, hrunning, hopen⟩ : ∃ t,
      Timeline.start ({ id, pages, delay } : Spy) plan.phrase plan.settings = .ok t ∧
        (∃ s, t.status = .running s) ∧ t.channelOpen = true :=
    ⟨_, if_neg (Nat.not_lt.mpr hqueue), ⟨_, rfl⟩, rfl⟩
  have htold := attended_notifyAll (.start hstart) hrunning hopen news
  rw [List.nil_append] at htold
  generalize hall : news.foldl (fun t n => (t.notify n).1) started = told at htold
  have hattended : (if channelOpen then told else told.disconnect).Attended { id, pages, delay }
      plan.phrase plan.settings news := by
    split
    · exact htold
    · exact htold.disconnect
  generalize hready : (if channelOpen then told else told.disconnect) = ready at hattended
  obtain ⟨u, w, hdriven, hclosed, hrelease, hreached, hdelivered⟩ :=
    (drive_attended hpages hattended hranked hstays htail plan.timeout).resolve_left
      fun hlate => Nat.not_lt.mpr hlate.1 hlimit
  have houtcome : outcome = conclude u.view.route.toPath (.ok ()) (w, .ok w.view) args := by
    unfold outcome runSession
    rw [hstart]
    dsimp only
    rw [hall, hready, hdriven]
    dsimp only
    rw [hclosed]
  have hconcluded : w.release.isSome = false := by
    rw [hrelease]
    rfl
  have hlines : outcome.lines = w.view.route.toPath :: report w.view args.hideFalseNegatives := by
    rw [houtcome, hreached.route, ← hdelivered.route]
    rfl
  rw [houtcome] at hlines ⊢
  exact ⟨rfl, rfl, hconcluded, w.view, hdelivered, hlines⟩

end

end RankedSearch.CommandLine
