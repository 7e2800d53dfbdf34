import RankedSearch.Proofs.Session.LastView
import RankedSearch.Proofs.Session.Paging
import RankedSearch.Proofs.Session.RankedGate
import RankedSearch.Proofs.Session.Unattended
import RankedSearch.Service.Pages

/-! # A ranking, page by page

A query that is ranked for good has its first page loaded by its session, and each further page when
the user asks for it. `Progress` says how far a session has come with this and `Running.Stands` what
then holds of it; what each input does to the progress is said here, whoever sends the input and
whenever it comes. Failures that the service reports and the errands for training and ranking do not
get in the way. -/
namespace RankedSearch.Session

open RankedSearch.Service (flaggedPage inRange)

/-! ## The pages of a ranking -/

/-- How many pages a ranking has. Without any items it still has one. -/
def pageTotal (pages : List (List Item)) : Nat := max pages.length 1

/-- The paths on the first `count` pages. -/
def pathsUpTo (pages : List (List Item)) (count : Nat) : List String :=
  (pages.take count).flatten.map (·.path)

/-- The numbers of the first `count` pages. -/
def pageNumbers (count : Nat) : List UInt32 :=
  (List.range count).map fun index => UInt32.ofNat (index + 1)

theorem pathsUpTo_succ (pages : List (List Item)) (count : Nat) :
    pathsUpTo pages (count + 1) = pathsUpTo pages count ++ (pages.getD count []).map (·.path) := by
  unfold pathsUpTo
  rw [List.take_add_one, List.flatten_append, List.map_append, List.getD_eq_getElem?_getD]
  cases pages[count]? <;> simp

theorem pageNumbers_succ (count : Nat) :
    pageNumbers (count + 1) = pageNumbers count ++ [UInt32.ofNat (count + 1)] := by
  unfold pageNumbers
  rw [List.range_succ, List.map_append]
  rfl

/-- Marks do not show in the paths of a page. -/
theorem flaggedPage_paths (pages : List (List Item)) (flags : Service.Flags) (number : UInt32) :
    (flaggedPage pages flags number).items.map (·.path) =
      (pages.getD (number.toNat - 1) []).map (·.path) := by
  unfold flaggedPage
  simp [List.map_map, Function.comp_def]

section

variable {pages : List (List Item)} (hpages : pages.length < UInt32.size)

include hpages

theorem toNat_pageNumber {count : Nat} (h : count ≤ pageTotal pages) :
    (UInt32.ofNat count).toNat = count := by
  refine UInt32.toNat_ofNat_of_lt' (Nat.lt_of_le_of_lt h ?_)
  unfold pageTotal
  exact Nat.max_lt.mpr ⟨hpages, by decide⟩

theorem inRange_succ {count : Nat} (h : count < pageTotal pages) :
    inRange pages (UInt32.ofNat (count + 1)) = true := by
  have hnumber : (UInt32.ofNat (count + 1)).toNat = count + 1 := toNat_pageNumber hpages h
  have htotal : (UInt32.ofNat (max pages.length 1)).toNat = pageTotal pages :=
    toNat_pageNumber hpages (Nat.le_refl _)
  unfold inRange
  rw [Bool.and_eq_true, decide_eq_true_iff, decide_eq_true_iff, UInt32.le_iff_toNat_le, htotal,
    hnumber]
  refine ⟨fun hzero => ?_, h⟩
  rw [hzero] at hnumber
  cases hnumber

theorem pageNumber_lt_iff {first second : Nat} (hfirst : first ≤ pageTotal pages)
    (hsecond : second ≤ pageTotal pages) :
    UInt32.ofNat first < UInt32.ofNat second ↔ first < second := by
  rw [UInt32.lt_iff_toNat_lt, toNat_pageNumber hpages hfirst, toNat_pageNumber hpages hsecond]

theorem pageNumber_inj {first second : Nat} (hfirst : first ≤ pageTotal pages)
    (hsecond : second ≤ pageTotal pages) :
    UInt32.ofNat first = UInt32.ofNat second ↔ first = second := by
  rw [← UInt32.toNat_inj, toNat_pageNumber hpages hfirst, toNat_pageNumber hpages hsecond]

theorem pageNumber_succ_ne {count : Nat} (h : count < pageTotal pages) :
    UInt32.ofNat (count + 1) ≠ UInt32.ofNat count := by
  rw [Ne, pageNumber_inj hpages h h.le]
  exact Nat.succ_ne_self count

end

/-! ## Progress -/

/-- How many pages a session has loaded and how many commands it has handled, and whether it is
fetching a further page. -/
inductive Progress
  /-- The query has not been ranked. -/
  | unranked
  /-- The next page has been asked for. Its call is still to be made. -/
  | asked (handled loaded : Nat)
  /-- The call for the next page has been made. -/
  | awaited (handled loaded : Nat)
  | idle (handled loaded : Nat)
deriving DecidableEq

namespace Progress

def isRanked : Progress → Bool
  | .unranked => false
  | _ => true

def handled : Progress → Nat
  | .unranked => 0
  | .asked handled _ | .awaited handled _ | .idle handled _ => handled

def loaded : Progress → Nat
  | .unranked => 0
  | .asked _ loaded | .awaited _ loaded | .idle _ loaded => loaded

def loading : Progress → Bool
  | .asked .. | .awaited .. => true
  | _ => false

/-- How many pages the service has been called for. -/
def called : Progress → Nat
  | .awaited _ loaded => loaded + 1
  | p => p.loaded

/-- The fetch whose call is still to be made. -/
def toMake : Progress → List Task
  | .asked _ loaded => [.fetch (UInt32.ofNat (loaded + 1))]
  | _ => []

/-- The fetch whose call has been made and has not concluded. -/
def inFlight : Progress → List Task
  | .awaited _ loaded => [.fetch (UInt32.ofNat (loaded + 1))]
  | _ => []

end Progress

/-- Training or ranking. -/
def Task.IsErrand (task : Task) : Prop := task = .train ∨ task = .rank

/-- Tasks that fetch just these pages, and see to training and ranking besides. -/
structure Fetches (fetches tasks : List Task) : Prop where
  fetches : tasks.filter Task.isFetch = fetches
  errands : ∀ task ∈ tasks, task.isFetch = false → task.IsErrand

namespace Fetches

variable {fetches tasks more : List Task}

theorem nil : Fetches [] [] := ⟨rfl, nofun⟩

theorem append_errands (h : Fetches fetches tasks) (hmore : ∀ task ∈ more, task.IsErrand) :
    Fetches fetches (tasks ++ more) where
  fetches := by
    have hnone : more.filter Task.isFetch = [] := by
      refine List.filter_eq_nil_iff.mpr ?_
      intro task htask
      rcases hmore task htask with rfl | rfl <;> exact Bool.false_ne_true
    rw [List.filter_append, hnone, List.append_nil, h.fetches]
  errands := List.forall_mem_append.mpr ⟨h.errands, fun task htask _ => hmore task htask⟩

/-- A fetch is added where there is none. -/
theorem append_fetch (h : Fetches [] tasks) (number : UInt32) :
    Fetches [.fetch number] (tasks ++ [.fetch number]) where
  fetches := by
    rw [List.filter_append, h.fetches]
    rfl
  errands := by
    refine List.forall_mem_append.mpr ⟨h.errands, ?_⟩
    intro task htask hfetch
    rw [List.mem_singleton.mp htask] at hfetch
    cases hfetch

theorem errand_or_mem (h : Fetches fetches tasks) {task : Task} (ht : task ∈ tasks) :
    task.IsErrand ∨ task ∈ fetches := by
  cases hfetch : task.isFetch with
  | true =>
    rw [← h.fetches]
    exact Or.inr (List.mem_filter.mpr ⟨ht, hfetch⟩)
  | false => exact Or.inl (h.errands task ht hfetch)

theorem erase (h : Fetches fetches tasks) (task : Task) :
    Fetches (fetches.erase task) (tasks.erase task) where
  fetches := by rw [← h.fetches, List.erase_filter]
  errands other hother := h.errands other (List.mem_of_mem_erase hother)

theorem erase_errand (h : Fetches fetches tasks) {task : Task} (ht : task.IsErrand) :
    Fetches fetches (tasks.erase task) := by
  have hother : task ∉ fetches := by
    rw [← h.fetches]
    rintro hmem
    have hfetch := (List.mem_filter.mp hmem).2
    rcases ht with rfl | rfl <;> cases hfetch
  have herased := h.erase task
  rwa [List.erase_of_not_mem hother] at herased

end Fetches

/-- A fetch that is still to be made is for the page that was asked for. -/
theorem Progress.of_mem_toMake {p : Progress} {task : Task} (h : task ∈ p.toMake) :
    ∃ handled loaded, p = .asked handled loaded ∧ task = .fetch (UInt32.ofNat (loaded + 1)) := by
  cases p with
  | asked handled loaded => exact ⟨handled, loaded, rfl, List.mem_singleton.mp h⟩
  | unranked | awaited | idle => cases h

theorem Progress.of_mem_inFlight {p : Progress} {task : Task} (h : task ∈ p.inFlight) :
    ∃ handled loaded, p = .awaited handled loaded ∧ task = .fetch (UInt32.ofNat (loaded + 1)) := by
  cases p with
  | awaited handled loaded => exact ⟨handled, loaded, rfl, List.mem_singleton.mp h⟩
  | unranked | asked | idle => cases h

/-- The list of a session that has come so far. -/
structure Pager.Holds (pages : List (List Item)) (p : Progress) (q : Pager) : Prop where
  fresh : p.isRanked = false → q = {}
  items : q.items.map (·.path) = pathsUpTo pages p.loaded
  currentPage : q.currentPage = UInt32.ofNat p.loaded
  pageCount : p.loaded ≠ 0 → q.pageCount = UInt32.ofNat (pageTotal pages)
  loading : q.loading = p.loading
  within : p.loaded + p.loading.toNat ≤ pageTotal pages

/-- What a session that has come so far shows. -/
structure View.Shows (pages : List (List Item)) (p : Progress) (v : View) : Prop where
  ranked : v.isRanked = p.isRanked
  handled : v.commandsHandled = p.handled
  pending : v.pendingUpdates = 0
  items : v.items.map (·.path) = pathsUpTo pages p.loaded
  currentPage : v.currentPage = UInt32.ofNat p.loaded
  pageCount : p.loaded ≠ 0 → v.pageCount = UInt32.ofNat (pageTotal pages)
  loading : v.loadingPage = p.loading

/-- A session that has come so far with the pages of its query. -/
structure Running.Stands (route : Query.Route) (pages : List (List Item)) (p : Progress)
    (s : Running) : Prop where
  shown : ∃ history, UpToDate route history s ∧ (commands history).length = p.handled
  stage : s.lifecycle.stage = .ranked ↔ p.isRanked = true
  latch : s.lifecycle.firstPageFired = p.isRanked
  timer : p.isRanked = true → s.lifecycle.timerArmed = false
  pending : s.pending = 0
  pager : s.pager.Holds pages p

/-- A list with pages to come asks for the one after those it has. -/
theorem Pager.Holds.nextPage_idle {pages : List (List Item)} (hpages : pages.length < UInt32.size)
    {handled loaded : Nat} {q : Pager} (h : q.Holds pages (.idle handled loaded))
    (hmore : loaded < pageTotal pages) :
    q.nextPage = some (UInt32.ofNat (loaded + 1)) := by
  have hidle : ¬ q.loading = true := fun hl => by cases h.loading.symm.trans hl
  have hcurrent : q.currentPage = UInt32.ofNat loaded := h.currentPage
  unfold Pager.nextPage
  rw [if_neg hidle, hcurrent]
  by_cases hfirst : loaded = 0
  · subst hfirst
    rfl
  · have hzero : UInt32.ofNat loaded ≠ 0 := fun hzero =>
      hfirst ((pageNumber_inj hpages hmore.le (Nat.zero_le _)).mp hzero)
    have hlast : ¬ UInt32.ofNat (pageTotal pages) ≤ UInt32.ofNat loaded :=
      UInt32.not_le.mpr ((pageNumber_lt_iff hpages hmore.le (Nat.le_refl _)).mpr hmore)
    rw [if_neg hzero, h.pageCount hfirst, if_neg hlast, UInt32.ofNat_add]
    rfl

/-- An input that does not change a session's progress: neither a command nor the answer to a fetch
or a mark, and of stages it tells only those that the session goes on with. -/
structure Input.Keeps (id : Query.Id) (p : Progress) (i : Input) : Prop where
  command : i.command? = none
  answer : ∀ a, i.answer? = some a → a.task.IsErrand
  stage : ∀ stage, i.stage? id = some stage → (stage = .ranked ↔ p.isRanked = true)

namespace Input.Keeps

variable {id : Query.Id} {p : Progress}

theorem channelClosed : Input.channelClosed.Keeps id p := ⟨rfl, nofun, nofun⟩

theorem deadlinePassed : Input.deadlinePassed.Keeps id p := ⟨rfl, nofun, nofun⟩

theorem answered {a : Answer} (ha : a.task.IsErrand) : (Input.answered a).Keeps id p :=
  ⟨rfl, fun _ h => Option.some.inj h ▸ ha, nofun⟩

end Input.Keeps

/-! ## News of a query that is ranked for good -/

/-- The news that a query is ranked. -/
def rankedNews (id : Query.Id) : Notification := ⟨id, .stage .ranked⟩

/-- Once a query is reported as ranked, no other stage of it is reported any more. -/
def StaysRanked (id : Query.Id) (news : List Notification) : Prop :=
  ∀ before after stage, news = before ++ rankedNews id :: after →
    ⟨id, .stage stage⟩ ∈ after → stage = .ranked

theorem StaysRanked.of_append {id : Query.Id} {first second : List Notification}
    (h : StaysRanked id (first ++ second)) : StaysRanked id first := by
  intro before after stage hfirst hmem
  refine h before (after ++ second) stage ?_ (List.mem_append_left _ hmem)
  rw [hfirst, List.append_assoc, List.cons_append]

/-- It is enough that the query is not reported as ranked at first, and as nothing else later. -/
theorem staysRanked_append {id : Query.Id} {first second : List Notification}
    (hfirst : rankedNews id ∉ first)
    (hsecond : ∀ stage, ⟨id, .stage stage⟩ ∈ second → stage = .ranked) :
    StaysRanked id (first ++ second) := by
  intro before after stage hnews hmem
  rcases List.append_eq_append_iff.mp hnews with ⟨between, rfl, hlater⟩ | ⟨between, rfl, hlater⟩
  · rw [hlater] at hsecond
    exact hsecond stage (List.mem_append_right _ (List.mem_cons_of_mem _ hmem))
  · cases between with
    | nil =>
      rw [List.nil_append] at hlater
      exact hsecond stage (hlater ▸ List.mem_cons_of_mem _ hmem)
    | cons n rest =>
      obtain ⟨rfl, rfl⟩ := List.cons_eq_cons.mp hlater
      exact absurd (by simp) hfirst

/-- The progress of a session that has heard some news. -/
def Progress.hear (id : Query.Id) (news : List Notification) (p : Progress) : Progress :=
  if p = .unranked ∧ rankedNews id ∈ news then .asked 0 0 else p

theorem Input.stage?_notified_iff {id : Query.Id} {n : Notification} {stage : Stage} :
    (Input.notified n).stage? id = some stage ↔ n = ⟨id, .stage stage⟩ := by
  obtain ⟨query, news⟩ := n
  unfold stage? news?
  by_cases hq : query = id
  · cases news <;> simp [hq]
  · simp [hq]

theorem Progress.hear_cons (id : Query.Id) (n : Notification) (rest : List Notification)
    (p : Progress) : p.hear id (n :: rest) = (p.hear id [n]).hear id rest := by
  unfold hear
  cases p with
  | unranked => by_cases hn : n = rankedNews id <;> simp [hn, eq_comm]
  | asked | awaited | idle => simp

theorem Progress.isRanked_hear {id : Query.Id} {heard : List Notification} {p : Progress}
    (h : p.isRanked = true ↔ rankedNews id ∈ heard) (news : List Notification) :
    (p.hear id news).isRanked = true ↔ rankedNews id ∈ heard ++ news := by
  rw [List.mem_append, ← h]
  unfold hear
  cases p with
  | unranked => by_cases hn : rankedNews id ∈ news <;> simp [hn, isRanked]
  | asked | awaited | idle => simp [isRanked]

/-- News change nothing but that the first page is asked for. -/
theorem Progress.hear_eq_or (id : Query.Id) (news : List Notification) (p : Progress) :
    p.hear id news = p ∨ p = .unranked ∧ p.hear id news = .asked 0 0 := by
  unfold hear
  split
  · rename_i h
    exact Or.inr ⟨h.1, rfl⟩
  · exact Or.inl rfl

/-- What does not tell a first page that is asked for from none is not changed by news. -/
theorem Progress.apply_hear {α : Type} (f : Progress → α) (h : f (.asked 0 0) = f .unranked)
    (id : Query.Id) (news : List Notification) (p : Progress) : f (p.hear id news) = f p := by
  rcases p.hear_eq_or id news with hn | ⟨rfl, hn⟩
  · rw [hn]
  · rw [hn, h]

/-- To a query that is ranked already the news make no difference. -/
theorem Progress.hear_of_isRanked {p : Progress} (h : p.isRanked = true) (id : Query.Id)
    (news : List Notification) : p.hear id news = p := by
  rcases p.hear_eq_or id news with hsame | ⟨rfl, _⟩
  · exact hsame
  · cases h

theorem Progress.hear_nil (id : Query.Id) (p : Progress) : p.hear id [] = p :=
  if_neg fun h => nomatch h.2

namespace Running

variable {route : Query.Route} {pages : List (List Item)} {p : Progress} {s : Running} {i : Input}

theorem init_stands (route : Query.Route) (pages : List (List Item)) :
    (init route).Stands route pages .unranked where
  shown := ⟨[], ⟨rfl, rfl, rfl⟩, rfl⟩
  stage := by simp [init, Progress.isRanked]
  latch := rfl
  timer h := by cases h
  pending := rfl
  pager := ⟨fun _ => rfl, rfl, rfl, fun h => absurd rfl h, rfl, Nat.zero_le _⟩

theorem Stands.query_eq (h : s.Stands route pages p) : s.query = route.id := by
  obtain ⟨_, hshown, _⟩ := h.shown
  exact hshown.query_eq

theorem Stands.view_eq (h : s.Stands route pages p) :
    s.view.Shows pages p ∧ s.view.closed = false ∧ s.view.route = route := by
  obtain ⟨history, hshown, hhandled⟩ := h.shown
  rw [hshown.view]
  refine ⟨⟨?_, hhandled, h.pending, h.pager.items, h.pager.currentPage, h.pager.pageCount,
    h.pager.loading⟩, rfl, rfl⟩
  rw [Bool.eq_iff_iff, View.isRanked_iff, ← h.stage, hshown.stage]
  rfl

/-- The last view of a session shows what was loaded. -/
theorem Stands.close_shows (h : s.Stands route pages p) :
    s.close.view.Shows pages p ∧ s.close.view.route = route := by
  obtain ⟨hview, _, hroute⟩ := h.view_eq
  obtain ⟨_, hshown, _⟩ := h.shown
  rw [hshown.close_view]
  exact ⟨{ hview with pending := rfl }, hroute⟩

/-! ## What inputs do to the progress -/

/-- The first page is asked for when the query is reported as ranked for the first time. -/
theorem asks_fetchFirstPage_iff (s : Running) (i : Input) :
    s.asks i = some .fetchFirstPage ↔
      s.lifecycle.firstPageFired = false ∧ i.stage? s.query = some .ranked := by
  rw [s.stage?_eq_trigger? i]
  unfold asks
  cases s.trigger? i with
  | none => simp
  | some t =>
    rw [Option.bind_some, Lifecycle.apply_fetchFirstPage]
    cases t <;> simp

/-- Marks are made by commands and settled by the answers to their tasks. -/
theorem Reacts.pending_eq {s' : Running} {started : List Task} (h : s.Reacts i s' started)
    (hc : i.command? = none) (ha : ∀ a, i.answer? = some a → a.task.IsErrand) :
    s'.pending = s.pending := by
  cases h with
  | shown | heard | call | fetch | called | loaded | missed | accepted => rfl
  | flags => cases hc
  | refused | confirmed => rcases ha _ rfl with hcall | hcall <;> cases hcall

/-- An input that is neither a command nor the answer to a fetch or a mark leaves the list alone,
unless it has the first page asked for. -/
theorem Reacts.quiet {s' : Running} {started : List Task} (h : s.Reacts i s' started)
    (hc : i.command? = none) (ha : ∀ a, i.answer? = some a → a.task.IsErrand)
    (hp : s.asks i ≠ some .fetchFirstPage) :
    s'.pager = s.pager ∧ started = ((s.asks i).map Action.errand).toList := by
  cases hi : i.answer? with
  | none =>
    obtain ⟨hstarted, hpager⟩ := h.of_outside hi hc fun hasks => absurd hasks hp
    rw [if_neg hp] at hpager
    exact ⟨hpager, hstarted⟩
  | some a =>
    cases h with
    | shown _ hnone _ | heard _ hnone _ _ | call _ hnone _ _ _ | fetch _ hnone _ _ =>
      cases hnone.symm.trans hi
    | flags => cases hi
    | called => exact ⟨rfl, rfl⟩
    | loaded | missed | accepted | refused | confirmed =>
      rcases ha _ rfl with hcall | hcall <;> cases hcall

namespace Stands

/-- **An input that keeps the progress** starts training or ranking at most, and neither of them
twice. -/
theorem keep (h : s.Stands route pages p) (hi : i.Keeps route.id p) :
    (s.step i).1.Stands route pages p ∧ (∀ task ∈ (s.step i).2, task.IsErrand) ∧
      (s.step i).1.lifecycle.toAsk + (s.step i).2.length = s.lifecycle.toAsk := by
  have hr := s.reacts i
  have hpage : s.asks i ≠ some .fetchFirstPage := by
    rw [Ne, asks_fetchFirstPage_iff, h.latch, h.query_eq]
    rintro ⟨hunranked, hstage⟩
    cases hunranked.symm.trans ((hi.stage _ hstage).mp rfl)
  obtain ⟨hpager, hstarted⟩ := hr.quiet hi.command hi.answer hpage
  obtain ⟨history, hshown, hhandled⟩ := h.shown
  refine ⟨⟨⟨_, hshown.step i, ?_⟩, ?_, ?_, ?_, ?_, ?_⟩, ?_, ?_⟩
  · rw [commands_snoc, hi.command, Option.toList_none, List.append_nil, hhandled]
  · show (s.react i).1.lifecycle.stage = .ranked ↔ _
    rw [hr.stage_eq, h.query_eq]
    cases hstage : i.stage? route.id with
    | none => exact h.stage
    | some stage => exact hi.stage stage hstage
  · exact (hr.fired_eq hpage).trans h.latch
  · intro hp
    have hle := hr.toNat_timerArmed_le
    rw [h.timer hp] at hle
    exact Bool.toNat_eq_zero.mp (Nat.le_zero.mp hle)
  · exact (hr.pending_eq hi.command hi.answer).trans h.pending
  · show (s.react i).1.pager.Holds pages p
    rw [hpager]
    exact h.pager
  · intro task htask
    rw [step_snd, hstarted, Option.mem_toList, Option.map_eq_some_iff] at htask
    obtain ⟨a, hasks, rfl⟩ := htask
    cases a with
    | beginTraining => exact Or.inl rfl
    | beginRanking => exact Or.inr rfl
    | fetchFirstPage => exact absurd hasks hpage
  · have hasked := hr.toAsk_eq
    rw [step_snd, hstarted, Option.length_toList, Option.isSome_map, ← Option.length_toList]
    exact hasked

/-- The query is ranked, and the first page is asked for. -/
theorem rank (h : s.Stands route pages .unranked) (hi : i.stage? route.id = some .ranked) :
    (s.step i).1.Stands route pages (.asked 0 0) ∧ (s.step i).2 = [.fetch 1] ∧
      (s.step i).1.lifecycle.toAsk + 1 = s.lifecycle.toAsk := by
  have hr := s.reacts i
  have hasks : s.asks i = some .fetchFirstPage := by
    rw [asks_fetchFirstPage_iff, h.latch, h.query_eq]
    exact ⟨rfl, hi⟩
  obtain ⟨hanswer, hcommand⟩ : i.answer? = none ∧ i.command? = none := by
    cases i with
    | notified n => exact ⟨rfl, rfl⟩
    | channelClosed | deadlinePassed | command _ | answered _ => cases hi
  have hfresh : s.pager = {} := h.pager.fresh rfl
  obtain ⟨hstarted, hpager⟩ := hr.of_outside hanswer hcommand fun _ => hfresh
  rw [if_pos hasks] at hpager
  rw [hasks] at hstarted
  have hpending := hr.pending_eq hcommand fun a ha => by cases hanswer.symm.trans ha
  have hstage := hr.stage_eq
  rw [h.query_eq, hi] at hstage
  obtain ⟨history, hshown, hhandled⟩ := h.shown
  obtain ⟨t, ht, hact⟩ := Option.bind_eq_some_iff.mp hasks
  have hlife : (s.react i).1.lifecycle = (s.lifecycle.apply t).1 := by
    rw [hr.lifecycle_eq, ht, Option.elim_some]
  have htimer : (s.lifecycle.apply t).1.timerArmed = false := by
    rw [s.lifecycle.apply_timerArmed, ((s.lifecycle.apply_fetchFirstPage t).mp hact).2]
    exact Bool.and_false _
  have hholds : (s.react i).1.pager.Holds pages (.asked 0 0) := by
    rw [hpager]
    exact
      { fresh := nofun
        items := rfl
        currentPage := rfl
        pageCount := fun hfirst => absurd rfl hfirst
        loading := rfl
        within := Nat.le_max_right .. }
  refine ⟨⟨⟨_, hshown.step i, ?_⟩, iff_of_true hstage rfl, ?_, fun _ => ?_,
    hpending.trans h.pending, hholds⟩, hstarted, ?_⟩
  · rw [commands_snoc, hcommand, Option.toList_none, List.append_nil, hhandled]
    rfl
  · show (s.react i).1.lifecycle.firstPageFired = true
    rw [hlife]
    exact (s.lifecycle.apply_fired t .fetchFirstPage).mpr (Or.inr hact)
  · show (s.react i).1.lifecycle.timerArmed = false
    rw [hlife, htimer]
  · have hasked := hr.toAsk_eq
    rw [hasks] at hasked
    exact hasked

/-- What a session hears next of a query that is ranked for good. -/
theorem hear (h : s.Stands route pages p) {heard rest : List Notification} {n : Notification}
    (hheard : p.isRanked = true ↔ rankedNews route.id ∈ heard)
    (hstays : StaysRanked route.id (heard ++ n :: rest)) :
    (s.step (.notified n)).1.Stands route pages (p.hear route.id [n]) ∧
      (∀ tasks, Fetches p.toMake tasks →
        Fetches (p.hear route.id [n]).toMake (tasks ++ (s.step (.notified n)).2)) ∧
      (s.step (.notified n)).1.lifecycle.toAsk + (s.step (.notified n)).2.length =
        s.lifecycle.toAsk := by
  by_cases hrank : p = .unranked ∧ rankedNews route.id ∈ [n]
  · obtain ⟨rfl, hn⟩ := hrank
    have hstage : (Input.notified n).stage? route.id = some .ranked :=
      Input.stage?_notified_iff.mpr (List.mem_singleton.mp hn).symm
    obtain ⟨hstands, hstarted, hasked⟩ := h.rank hstage
    rw [Progress.hear, if_pos ⟨rfl, hn⟩, hstarted]
    exact ⟨hstands, fun tasks htasks => htasks.append_fetch 1, hasked⟩
  · have hkeeps : (Input.notified n).Keeps route.id p := by
      refine ⟨rfl, nofun, fun stage hstage => ?_⟩
      rw [Input.stage?_notified_iff] at hstage
      constructor
      · rintro rfl
        by_contra hp
        have hunranked : p = .unranked := by cases p <;> first | rfl | exact absurd rfl hp
        exact hrank ⟨hunranked, List.mem_singleton.mpr hstage.symm⟩
      · intro hp
        obtain ⟨before, after, rfl⟩ := List.append_of_mem (hheard.mp hp)
        refine hstays before (after ++ n :: rest) stage (by simp) ?_
        rw [← hstage]
        exact List.mem_append_right _ (List.mem_cons_self ..)
    obtain ⟨hstands, hstarted, hasked⟩ := h.keep hkeeps
    rw [Progress.hear, if_neg hrank]
    exact ⟨hstands, fun tasks htasks => htasks.append_errands hstarted, hasked⟩

/-- A further page is asked for. -/
theorem order (hpages : pages.length < UInt32.size) {handled loaded : Nat}
    (h : s.Stands route pages (.idle handled loaded)) (hmore : loaded < pageTotal pages) :
    (s.step (.command .loadMore)).1.Stands route pages (.asked (handled + 1) loaded) ∧
      (s.step (.command .loadMore)).2 = [.fetch (UInt32.ofNat (loaded + 1))] := by
  have hnext : s.pager.nextPage = some (UInt32.ofNat (loaded + 1)) :=
    h.pager.nextPage_idle hpages hmore
  obtain ⟨history, hshown, hhandled⟩ := h.shown
  have hasked : s.react (.command .loadMore) =
      ({ s with
          view := { s.view with commandsHandled := s.view.commandsHandled + 1 }
          pager := { s.pager with loading := true }
          tasks := s.tasks ++ [.fetch (UInt32.ofNat (loaded + 1))] },
        [.fetch (UInt32.ofNat (loaded + 1))]) := by
    rcases requestPage_cases
      { s with view := { s.view with commandsHandled := s.view.commandsHandled + 1 } }
      with ⟨hnone, _⟩ | ⟨page, hsome, heq⟩
    · cases hnone.symm.trans hnext
    · obtain rfl : UInt32.ofNat (loaded + 1) = page := Option.some.inj (hnext.symm.trans hsome)
      exact heq
  have hkept : (s.step (.command .loadMore)).1.lifecycle = s.lifecycle := by
    rw [step_fst, hasked]
    rfl
  refine ⟨⟨⟨_, hshown.step _, ?_⟩, hkept ▸ h.stage, hkept ▸ h.latch, hkept ▸ h.timer, ?_, ?_⟩, ?_⟩
  · rw [commands_snoc, List.length_append, hhandled]
    rfl
  · rw [step_fst, hasked]
    exact h.pending
  · rw [step_fst, hasked]
    exact
      { fresh := nofun
        items := h.pager.items
        currentPage := h.pager.currentPage
        pageCount := h.pager.pageCount
        loading := rfl
        within := hmore }
  · rw [step_snd, hasked]

/-- The call for a page is no input. -/
theorem call {handled loaded : Nat} (h : s.Stands route pages (.asked handled loaded)) :
    s.Stands route pages (.awaited handled loaded) :=
  { h with
    pager :=
      { h.pager with
        fresh := nofun } }

/-- The page that was asked for comes. -/
theorem load (hpages : pages.length < UInt32.size) {handled loaded : Nat}
    (h : s.Stands route pages (.awaited handled loaded)) (flags : Service.Flags) :
    let number := UInt32.ofNat (loaded + 1)
    let i := Input.answered (.fetched number (.ok (flaggedPage pages flags number)))
    (s.step i).1.Stands route pages (.idle handled (loaded + 1)) ∧ (s.step i).2 = [] := by
  intro number i
  have hless : loaded < pageTotal pages := h.pager.within
  have hfetched : number.toNat = s.pager.currentPage.toNat + 1 := by
    have hcurrent : s.pager.currentPage = UInt32.ofNat loaded := h.pager.currentPage
    rw [hcurrent, toNat_pageNumber hpages hless.le]
    exact toNat_pageNumber hpages hless
  have happended := (Pager.completeFetch_eq (flaggedPage pages flags number) hfetched).2
  obtain ⟨history, hshown, hhandled⟩ := h.shown
  refine ⟨⟨⟨_, hshown.step i, ?_⟩, h.stage, h.latch, h.timer, h.pending, ?_⟩, rfl⟩
  · rw [commands_snoc, List.length_append, hhandled]
    rfl
  · show (s.pager.completeFetch number (flaggedPage pages flags number)).Holds pages _
    rw [happended]
    exact
      { fresh := nofun
        items := by
          rw [List.map_append, h.pager.items, flaggedPage_paths, toNat_pageNumber hpages hless]
          exact (pathsUpTo_succ pages loaded).symm
        currentPage := ite_self number
        pageCount := fun _ => rfl
        loading := rfl
        within := hless }

end Stands

end Running

end RankedSearch.Session
