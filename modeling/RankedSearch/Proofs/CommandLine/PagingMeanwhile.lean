import RankedSearch.Proofs.CommandLine.PagesAskedFor
import RankedSearch.Proofs.CommandLine.StepByStep
import RankedSearch.Proofs.Session.Course

/-! # Paging, whatever happens meanwhile

A run, its session and the service go their own ways: news arrive while the run waits and while it
loads pages, calls begin and conclude in any order, and the run looks at whatever view is the last
one when its turn comes. `Reading.Moves` is one step of any of them. Each step keeps what
`Reading.Fits` says and takes something away of what can still happen, and where nothing can happen
any more the run is over, with the pages that it was asked for. -/
namespace RankedSearch.Session.Live

/-- How much can still happen to a session if it is told nothing more. A command leads to a call, and
a call that is to be made is made before it is answered. -/
def weight (l : Live) : Nat :=
  4 * l.queue.length + 3 * l.session.lifecycle.toAsk + 2 * l.unmade.length + l.made.length +
    l.session.lifecycle.timerArmed.toNat

variable {l : Live}

theorem weight_call {task : Task} (h : task ∈ l.unmade) : (l.call task).weight < l.weight := by
  have hpos := List.length_pos_of_mem h
  unfold weight call
  simp only [List.length_append, List.length_singleton, List.length_erase_of_mem h]
  omega

/-- What is asked for once is called for once. -/
theorem weight_take {i : Input} (hc : i.command? = none)
    (hasked : (l.session.step i).1.lifecycle.toAsk + (l.session.step i).2.length =
      l.session.lifecycle.toAsk) (hoffers : l.Offers i) :
    (l.take i).weight + i.answer?.toList.length + l.session.lifecycle.timerArmed.toNat ≤
      l.weight + (l.take i).session.lifecycle.timerArmed.toNat := by
  have hqueue : (l.take i).queue = l.queue := by
    unfold take
    rw [hc]
    rfl
  have hunmade : (l.take i).unmade.length = l.unmade.length + (l.session.step i).2.length :=
    List.length_append
  have hmade : (l.take i).made.length + i.answer?.toList.length = l.made.length := by
    cases i with
    | answered a =>
      have hmem : a.task ∈ l.made := hoffers
      exact (congrArg (· + 1) (List.length_erase_of_mem hmem)).trans
        (Nat.sub_add_cancel (List.length_pos_of_mem hmem))
    | notified | channelClosed | deadlinePassed | command => rfl
  unfold weight
  rw [hqueue, hunmade, take_session]
  omega

theorem weight_take_le {i : Input} (hc : i.command? = none)
    (hasked : (l.session.step i).1.lifecycle.toAsk + (l.session.step i).2.length =
      l.session.lifecycle.toAsk) (hoffers : l.Offers i) :
    (l.take i).weight + i.answer?.toList.length ≤ l.weight := by
  have hweight := weight_take hc hasked hoffers
  have htimer : (l.take i).session.lifecycle.timerArmed.toNat ≤
      l.session.lifecycle.timerArmed.toNat := (l.session.reacts i).toNat_timerArmed_le
  omega

/-- The deadline passes once. -/
theorem weight_take_deadlinePassed (hasked : (l.session.step .deadlinePassed).1.lifecycle.toAsk +
      (l.session.step .deadlinePassed).2.length = l.session.lifecycle.toAsk)
    (hoffers : l.Offers .deadlinePassed) : (l.take .deadlinePassed).weight < l.weight := by
  have hweight := weight_take rfl hasked hoffers
  have harmed : l.session.lifecycle.timerArmed = true := hoffers
  have hpassed : (l.take .deadlinePassed).session.lifecycle.timerArmed = false :=
    (congrArg Lifecycle.timerArmed (l.session.reacts .deadlinePassed).lifecycle_eq).trans
      (Lifecycle.timerArmed_passDeadline _)
  rw [harmed, hpassed] at hweight
  exact Nat.lt_of_succ_le hweight

theorem weight_take_command {c : Command} {rest : List Command} (hq : l.queue = c :: rest)
    (hstarted : (l.session.step (.command c)).2.length ≤ 1) :
    (l.take (.command c)).weight < l.weight := by
  have hr := l.session.reacts (.command c)
  have hasked : (l.take (.command c)).session.lifecycle.toAsk = l.session.lifecycle.toAsk :=
    hr.toAsk_eq
  have htimer : (l.take (.command c)).session.lifecycle.timerArmed.toNat ≤
      l.session.lifecycle.timerArmed.toNat := hr.toNat_timerArmed_le
  have hqueue : (l.take (.command c)).queue = rest := congrArg List.tail hq
  have hunmade : (l.take (.command c)).unmade.length =
      l.unmade.length + (l.session.step (.command c)).2.length := List.length_append
  have hmade : (l.take (.command c)).made = l.made := rfl
  unfold weight
  rw [hqueue, hunmade, hmade, hasked, hq, List.length_cons]
  omega

end RankedSearch.Session.Live

namespace RankedSearch.CommandLine

open RankedSearch.Session
open RankedSearch.Service (Request Spy flaggedPage)

/-! ## A run and everything around it -/

/-- A run with its session, the service it reads from, and the news that are still to be heard. The
run goes from point to point as `drive_walks` says that it does on the clock. -/
structure Reading where
  live : Live
  service : Spy
  news : List Notification
  channelOpen : Bool := true
  /-- How many commands may wait. -/
  capacity : Nat
  /-- How many commands were accepted. -/
  sent : Nat := 0
  point : Point := .waiting

namespace Reading

/-- A run whose session has just started. -/
def start (phrase : Query.Phrase) (service : Spy) (news : List Notification) (capacity : Nat) :
    Reading :=
  let submit := Request.submit service.id phrase
  { live := { session := .init ⟨service.id, phrase⟩ }
    service := (((service.record .start).record submit).answer submit).1
    news, capacity }

/-- What can happen: the session takes something in that is there, a call begins or concludes, the
run looks at the last view, or it sends a command for which there is room. -/
inductive Moves (args : Arguments) (r : Reading) : Reading → Prop
  | hear {n : Notification} {rest : List Notification} (h : r.news = n :: rest) :
      Moves args r { r with live := r.live.take (.notified n), news := rest }
  | disconnect (hopen : r.channelOpen = true) (h : r.news = []) :
      Moves args r { r with live := r.live.take .channelClosed, channelOpen := false }
  | passDeadline (h : r.live.Offers .deadlinePassed) :
      Moves args r { r with live := r.live.take .deadlinePassed }
  | call {task : Task} (h : task ∈ r.live.unmade) :
      Moves args r
        { r with
          live := r.live.call task
          service := r.service.record (task.request r.live.session.query) }
  | answer {task : Task} (h : task ∈ r.live.made) :
      Moves args r
        { r with
          live := r.live.take (.answered (task.answer r.live.session.query
            (r.service.answer (task.request r.live.session.query)).2))
          service := (r.service.answer (task.request r.live.session.query)).1 }
  | command {c : Command} (h : r.live.Offers (.command c)) :
      Moves args r { r with live := r.live.take (.command c) }
  | look {next : Point} (h : r.point.look args r.live.session.view = some next) :
      Moves args r { r with point := next }
  | send {left : Nat} {before : UInt32} (h : r.point = .sending left before)
      (hroom : r.live.queue.length < r.capacity) :
      Moves args r
        { r with
          live := { r.live with queue := r.live.queue ++ [.loadMore] }
          sent := r.sent + 1
          point := .syncing left before (r.sent + 1) }

/-- What can become of a run. -/
inductive Reaches (args : Arguments) (origin : Reading) : Reading → Prop
  | start : Reaches args origin origin
  | move {r r' : Reading} (h : Reaches args origin r) (hmove : r.Moves args r') :
      Reaches args origin r'

/-- A run comes to where something holds, whatever happens on the way. -/
inductive Leads (args : Arguments) (P : Reading → Prop) : Reading → Prop
  | here {r : Reading} (h : P r) : Leads args P r
  | next {r : Reading} (hsome : ∃ r', r.Moves args r')
      (hall : ∀ r', r.Moves args r' → Leads args P r') : Leads args P r

end Reading

/-! ## What holds where a run stands -/

/-- Where a run stands that is to load the first `goal` pages, as far as its session has come. -/
def Point.Fits (pages : List (List Item)) (args : Arguments) (p : Progress) (queue : List Command)
    (sent : Nat) : Point → Prop
  | .waiting => queue = [] ∧ sent = 0 ∧ (p = .asked 0 0 ∨ Timeline.Opening p)
  | .paging left => queue = [] ∧ ∃ loaded, p = .idle sent loaded ∧ 1 ≤ loaded ∧
      loaded ≤ pageTotal pages ∧ min (loaded + left) (pageTotal pages) = pagesLoaded pages args
  | .asking left before | .sending left before => queue = [] ∧ ∃ loaded, p = .idle sent loaded ∧
      before = UInt32.ofNat loaded ∧ 1 ≤ loaded ∧ loaded < pageTotal pages ∧
      min (loaded + 1 + left) (pageTotal pages) = pagesLoaded pages args
  | .syncing left before count => ∃ handled loaded, sent = handled + 1 ∧ count = handled + 1 ∧
      before = UInt32.ofNat loaded ∧ 1 ≤ loaded ∧ loaded < pageTotal pages ∧
      min (loaded + 1 + left) (pageTotal pages) = pagesLoaded pages args ∧
      (queue = [.loadMore] ∧ p = .idle handled loaded ∨
        queue = [] ∧ (p = .asked (handled + 1) loaded ∨ p = .awaited (handled + 1) loaded ∨
          p = .idle (handled + 1) (loaded + 1)))
  | .ended result => result = .ok () ∧ queue = [] ∧ p = .idle sent (pagesLoaded pages args)

namespace Point

variable {pages : List (List Item)} {args : Arguments} {p : Progress} {v : View}

theorem look_waiting_of_loaded (hpages : pages.length < UInt32.size)
    (h : v.Shows pages (.idle 0 1)) :
    waiting.look args v = some (.paging (args.pages.toNat - 1)) :=
  congrArg (Option.map _) (firstPage_of_loaded hpages h (Nat.le_refl 1) (Nat.le_max_right ..))

theorem look_waiting_eq_none (h : v.Shows pages p) (hopen : v.closed = false)
    (hp : p.loaded = 0) (hloading : p.isRanked = p.loading) :
    waiting.look args v = none :=
  congrArg (Option.map _) (firstPage_eq_none h hopen hp hloading)

theorem look_syncing_of_idle (hpages : pages.length < UInt32.size) {handled loaded : Nat}
    (hless : loaded < pageTotal pages) (h : v.Shows pages (.idle handled (loaded + 1)))
    (left : Nat) :
    (syncing left (UInt32.ofNat loaded) handled).look args v = some (.paging left) := by
  have hmoved : v.currentPage ≠ UInt32.ofNat loaded := by
    rw [h.currentPage]
    exact pageNumber_succ_ne hpages hless
  refine (congrArg (Option.map _) (lookFor_isSynced_of_idle h)).trans ?_
  exact congrArg some (if_neg hmoved)

theorem look_syncing_eq_none (h : v.Shows pages p) (hopen : v.closed = false) {sent : Nat}
    (hearly : p.handled < sent ∨ p.loading = true) (left : Nat) (before : UInt32) :
    (syncing left before sent).look args v = none :=
  congrArg (Option.map _) (lookFor_isSynced_eq_none h hopen hearly)

end Point

namespace Point.Fits

variable {pages : List (List Item)} {args : Arguments} {p : Progress} {queue : List Command}
  {sent handled loaded : Nat} {point next : Point} {v : View}

/-- The query is ranked. -/
theorem rank (h : point.Fits pages args .unranked queue sent) :
    point.Fits pages args (.asked 0 0) queue sent := by
  cases point with
  | waiting => exact ⟨h.1, h.2.1, Or.inl rfl⟩
  | paging | asking | sending =>
    obtain ⟨_, _, hp, _⟩ := h
    cases hp
  | syncing =>
    obtain ⟨_, _, _, _, _, _, _, _, ⟨_, hp⟩ | ⟨_, hp | hp | hp⟩⟩ := h <;> cases hp
  | ended => cases h.2.2

/-- The call for a page is made. -/
theorem call (h : point.Fits pages args (.asked handled loaded) queue sent) :
    point.Fits pages args (.awaited handled loaded) queue sent := by
  cases point with
  | waiting =>
    obtain ⟨hq, hsent, hp | hp | hp | hp⟩ := h <;> cases hp
    exact ⟨hq, hsent, Or.inr (Or.inr (Or.inl rfl))⟩
  | paging | asking | sending =>
    obtain ⟨_, _, hp, _⟩ := h
    cases hp
  | syncing =>
    obtain ⟨handled, loaded, hsent, hcount, hbefore, hfirst, hless, hgoal,
      ⟨_, hp⟩ | ⟨hq, hp | hp | hp⟩⟩ := h <;> cases hp
    exact ⟨handled, loaded, hsent, hcount, hbefore, hfirst, hless, hgoal,
      Or.inr ⟨hq, Or.inr (Or.inl rfl)⟩⟩
  | ended => cases h.2.2

/-- The page comes. -/
theorem load (h : point.Fits pages args (.awaited handled loaded) queue sent) :
    point.Fits pages args (.idle handled (loaded + 1)) queue sent := by
  cases point with
  | waiting =>
    obtain ⟨hq, hsent, hp | hp | hp | hp⟩ := h <;> cases hp
    exact ⟨hq, hsent, Or.inr (Or.inr (Or.inr rfl))⟩
  | paging | asking | sending =>
    obtain ⟨_, _, hp, _⟩ := h
    cases hp
  | syncing =>
    obtain ⟨handled, loaded, hsent, hcount, hbefore, hfirst, hless, hgoal,
      ⟨_, hp⟩ | ⟨hq, hp | hp | hp⟩⟩ := h <;> cases hp
    exact ⟨handled, loaded, hsent, hcount, hbefore, hfirst, hless, hgoal,
      Or.inr ⟨hq, Or.inr (Or.inr rfl)⟩⟩
  | ended => cases h.2.2

/-- The command for a page is handled. -/
theorem order {c : Command} {rest : List Command} (h : point.Fits pages args p (c :: rest) sent) :
    c = .loadMore ∧ rest = [] ∧ ∃ handled loaded, p = .idle handled loaded ∧
      loaded < pageTotal pages ∧ point.Fits pages args (.asked (handled + 1) loaded) [] sent := by
  cases point with
  | waiting | paging | asking | sending => cases h.1
  | syncing =>
    obtain ⟨handled, loaded, hsent, hcount, hbefore, hfirst, hless, hgoal,
      ⟨hq, hp⟩ | ⟨hq, _⟩⟩ := h <;> cases hq
    exact ⟨rfl, rfl, handled, loaded, hp, hless, handled, loaded, hsent, hcount, hbefore, hfirst,
      hless, hgoal, Or.inr ⟨rfl, Or.inl rfl⟩⟩
  | ended => cases h.2.1

/-- The run looks at a view. -/
theorem look (hpages : pages.length < UInt32.size) (h : point.Fits pages args p queue sent)
    (hv : v.Shows pages p) (hopen : v.closed = false) (hnext : point.look args v = some next) :
    next.Fits pages args p queue sent := by
  cases point with
  | waiting =>
    have hnone (hloaded : p.loaded = 0) (hloading : p.isRanked = p.loading) :
        next.Fits pages args p queue sent := by
      rw [look_waiting_eq_none hv hopen hloaded hloading] at hnext
      cases hnext
    obtain ⟨hq, hsent, rfl | rfl | rfl | rfl⟩ := h
    · exact hnone rfl rfl
    · exact hnone rfl rfl
    · exact hnone rfl rfl
    · rw [look_waiting_of_loaded hpages hv] at hnext
      cases hnext
      refine ⟨hq, 1, by rw [hsent], Nat.le_refl 1, Nat.le_max_right .., ?_⟩
      unfold pagesLoaded
      omega
  | paging left =>
    obtain ⟨hq, loaded, rfl, hfirst, hall, hgoal⟩ := h
    have hmore := hasMorePages_iff hpages hv hfirst hall
    have hover (hlast : loaded = pagesLoaded pages args) :
        (Point.ended (.ok ())).Fits pages args (.idle sent loaded) queue sent :=
      ⟨rfl, hq, by rw [hlast]⟩
    cases left with
    | zero =>
      cases hnext
      exact hover (by omega)
    | succ left =>
      obtain rfl := Option.some.inj hnext
      split
      · rename_i hyes
        have hless := hmore.mp hyes
        exact ⟨hq, loaded, rfl, hv.currentPage, hfirst, hless, by omega⟩
      · rename_i hno
        have hlast : pageTotal pages ≤ loaded := Nat.le_of_not_lt fun hless => hno (hmore.mpr hless)
        exact hover (by omega)
  | asking left before =>
    obtain ⟨hq, loaded, rfl, hrest⟩ := h
    obtain rfl := Option.some.inj hnext
    have hranked : v.isRanked = true := hv.ranked
    rw [if_pos hranked]
    exact ⟨hq, loaded, rfl, hrest⟩
  | syncing left before count =>
    obtain ⟨handled, loaded, hsent, rfl, rfl, hfirst, hless, hgoal, hp⟩ := h
    have hnone (hearly : p.handled < handled + 1 ∨ p.loading = true) :
        next.Fits pages args p queue sent := by
      rw [look_syncing_eq_none hv hopen hearly] at hnext
      cases hnext
    obtain ⟨_, rfl⟩ | ⟨hq, rfl | rfl | rfl⟩ := hp
    · exact hnone (Or.inl (Nat.lt_succ_self handled))
    · exact hnone (Or.inr rfl)
    · exact hnone (Or.inr rfl)
    · rw [look_syncing_of_idle hpages hless hv] at hnext
      cases hnext
      exact ⟨hq, loaded + 1, by rw [hsent], Nat.le_add_left .., hless, hgoal⟩
  | sending | ended => cases hnext

/-- A run whose session is idle, with no command on its way, goes on or is over. -/
theorem exists_look (hpages : pages.length < UInt32.size)
    (h : point.Fits pages args (.idle handled loaded) [] sent)
    (hv : v.Shows pages (.idle handled loaded)) :
    (∃ next, point.look args v = some next) ∨ (∃ left before, point = .sending left before) ∨
      ∃ result, point = .ended result := by
  cases point with
  | waiting =>
    obtain ⟨_, _, hp | hp | hp | hp⟩ := h <;> cases hp
    exact Or.inl ⟨_, look_waiting_of_loaded hpages hv⟩
  | paging left => cases left <;> exact Or.inl ⟨_, rfl⟩
  | asking => exact Or.inl ⟨_, rfl⟩
  | sending left before => exact Or.inr (Or.inl ⟨left, before, rfl⟩)
  | syncing left before count =>
    obtain ⟨handled, loaded, _, rfl, rfl, _, hless, _, ⟨hq, _⟩ | ⟨_, hp | hp | hp⟩⟩ := h
    · cases hq
    · cases hp
    · cases hp
    · cases hp
      exact Or.inl ⟨_, look_syncing_of_idle hpages hless hv left⟩
  | ended result => exact Or.inr (Or.inr ⟨result, rfl⟩)

end Point.Fits

/-! ## What can still happen -/

/-- How much can still happen to a run at a point. -/
def Point.weight (args : Arguments) : Point → Nat
  | .waiting => 8 * (args.pages.toNat - 1) + 2
  | .paging left => 8 * left + 1
  | .asking left _ => 8 * left + 8
  | .sending left _ => 8 * left + 7
  | .syncing left _ _ => 8 * left + 2
  | .ended _ => 0

theorem Point.weight_look {args : Arguments} {v : View} {point next : Point}
    (h : point.look args v = some next) : next.weight args < point.weight args := by
  cases point with
  | waiting =>
    obtain ⟨result, _, rfl⟩ := Option.map_eq_some_iff.mp h
    cases result <;> simp [after, weight]
  | paging left =>
    cases left with
    | zero =>
      cases h
      simp [weight]
    | succ left =>
      obtain rfl := Option.some.inj h
      split <;> simp [weight]
      omega
  | asking left before =>
    obtain rfl := Option.some.inj h
    split <;> simp [weight]
  | syncing left before sent =>
    obtain ⟨result, _, rfl⟩ := Option.map_eq_some_iff.mp h
    cases result with
    | ok v =>
      unfold synced
      dsimp only
      split <;> simp [weight]
    | error fault => simp [synced, weight]
  | sending | ended => cases h

namespace Reading

def weight (args : Arguments) (r : Reading) : Nat :=
  r.point.weight args + r.live.weight + r.news.length + r.channelOpen.toNat

/-- What holds of a run that has come so far, when the news `told` are all there are. -/
structure Stands (route : Query.Route) (pages : List (List Item)) (delay : Nat)
    (told : List Notification) (args : Arguments) (p : Progress) (r : Reading) : Prop where
  session : r.live.session.Stands route pages p
  service : r.service.Gives pages delay p.called
  unmade : Fetches p.toMake r.live.unmade
  made : Fetches p.inFlight r.live.made
  heard : ∃ heard, told = heard ++ r.news ∧ (p.isRanked = true ↔ rankedNews route.id ∈ heard)
  stays : StaysRanked route.id told
  capacity : 1 ≤ r.capacity
  point : r.point.Fits pages args p r.live.queue r.sent

variable {route : Query.Route} {pages : List (List Item)} {delay : Nat} {told : List Notification}
  {args : Arguments} {p : Progress} {r : Reading}

theorem start_stands {id : Query.Id} {phrase : Query.Phrase} (hstays : StaysRanked id told)
    {capacity : Nat} (hcapacity : 1 ≤ capacity) (args : Arguments) :
    (start phrase { id, pages, delay } told capacity).Stands ⟨id, phrase⟩ pages delay told args
      .unranked where
  session := Running.init_stands ⟨id, phrase⟩ pages
  service := ⟨rfl, rfl, rfl, rfl⟩
  unmade := .nil
  made := .nil
  heard := ⟨[], rfl, iff_of_false nofun nofun⟩
  stays := hstays
  capacity := hcapacity
  point := ⟨rfl, rfl, Or.inr (Or.inl rfl)⟩

namespace Stands

/-- An input from outside that keeps the progress. -/
theorem keep {i : Input} (h : r.Stands route pages delay told args p) (hi : i.Keeps route.id p)
    (ho : i.answer? = none) :
    ({ r with live := r.live.take i } : Reading).Stands route pages delay told args p := by
  obtain ⟨hstands, hstarted, _⟩ := h.session.keep hi
  have hmade : (r.live.take i).made = r.live.made := Live.made_take ho
  have hqueue : (r.live.take i).queue = r.live.queue := Live.queue_take hi.command
  exact
    { h with
      session := hstands
      unmade := h.unmade.append_errands hstarted
      made := hmade ▸ h.made
      point := hqueue ▸ h.point }

theorem hear {n : Notification} {rest : List Notification}
    (h : r.Stands route pages delay told args p) (hnews : r.news = n :: rest) :
    ({ r with live := r.live.take (.notified n), news := rest } : Reading).Stands route pages delay
        told args (p.hear route.id [n]) ∧
      (r.live.take (.notified n)).weight ≤ r.live.weight := by
  obtain ⟨heard, htold, hheard⟩ := h.heard
  rw [hnews] at htold
  obtain ⟨hstands, hfetches, hasked⟩ := h.session.hear hheard (htold ▸ h.stays)
  refine ⟨?_, Live.weight_take_le rfl hasked trivial⟩
  have hcalled := h.service
  rw [← Progress.apply_hear Progress.called rfl route.id [n]] at hcalled
  have hmade := h.made
  rw [← Progress.apply_hear Progress.inFlight rfl route.id [n]] at hmade
  have hpoint : r.point.Fits pages args (p.hear route.id [n]) r.live.queue r.sent := by
    rcases p.hear_eq_or route.id [n] with hn | ⟨rfl, hn⟩
    · rw [hn]
      exact h.point
    · rw [hn]
      exact h.point.rank
  exact
    { h with
      session := hstands
      service := hcalled
      unmade := hfetches _ h.unmade
      made := hmade
      heard := ⟨heard ++ [n], by rw [htold, ← List.append_cons], Progress.isRanked_hear hheard [n]⟩
      point := hpoint }

theorem call {task : Task} (h : r.Stands route pages delay told args p)
    (ht : task ∈ r.live.unmade) :
    ∃ p', ({ r with
        live := r.live.call task
        service := r.service.record (task.request r.live.session.query) } : Reading).Stands route
      pages delay told args p' := by
  rcases h.unmade.errand_or_mem ht with herrand | hmem
  · refine ⟨p, ?_⟩
    exact
      { h with
        service := h.service.record_errand herrand _
        unmade := h.unmade.erase_errand herrand
        made := h.made.append_errands (List.forall_mem_singleton.mpr herrand) }
  · obtain ⟨handled, loaded, rfl, rfl⟩ := Progress.of_mem_toMake hmem
    have hunmade := h.unmade.erase (.fetch (UInt32.ofNat (loaded + 1)))
    rw [Progress.toMake, List.erase_cons_head] at hunmade
    refine ⟨.awaited handled loaded, ?_⟩
    exact
      { h with
        session := h.session.call
        service := h.service.record_fetch r.live.session.query
        unmade := hunmade
        made := h.made.append_fetch _
        point := h.point.call }

/-- Training or ranking is answered. -/
theorem learn {a : Answer} (h : r.Stands route pages delay told args p) (ha : a.task.IsErrand)
    (hm : a.task ∈ r.live.made) :
    ({ r with live := r.live.take (.answered a) } : Reading).Stands route pages delay told args p ∧
      (r.live.take (.answered a)).weight < r.live.weight := by
  obtain ⟨hstands, hstarted, hasked⟩ := h.session.keep (.answered ha)
  refine ⟨?_, Live.weight_take_le rfl hasked hm⟩
  exact
    { h with
      session := hstands
      unmade := h.unmade.append_errands hstarted
      made := h.made.erase_errand ha }

/-- The page comes. -/
theorem load (hpages : pages.length < UInt32.size) {handled loaded : Nat}
    (h : r.Stands route pages delay told args (.awaited handled loaded)) (flags : Service.Flags)
    (hm : .fetch (UInt32.ofNat (loaded + 1)) ∈ r.live.made) :
    let number := UInt32.ofNat (loaded + 1)
    let i := Input.answered (.fetched number (.ok (flaggedPage pages flags number)))
    ({ r with live := r.live.take i } : Reading).Stands route pages delay told args
        (.idle handled (loaded + 1)) ∧
      (r.live.take i).weight < r.live.weight := by
  intro number i
  obtain ⟨hstands, hstarted⟩ := h.session.load hpages flags
  have hasked := (r.live.session.reacts i).toAsk_eq
  have hmade := h.made.erase (.fetch number)
  rw [Progress.inFlight, List.erase_cons_head] at hmade
  refine ⟨?_, Live.weight_take_le (i := i) rfl ?_ hm⟩
  · exact
      { h with
        session := hstands
        unmade := by
          show Fetches _ (r.live.unmade ++ (r.live.session.step i).2)
          rw [hstarted, List.append_nil]
          exact h.unmade
        made := hmade
        point := h.point.load }
  · rw [hstarted]
    exact hasked

theorem answer {task : Task} (hpages : pages.length < UInt32.size)
    (h : r.Stands route pages delay told args p) (ht : task ∈ r.live.made) :
    let q := task.request r.live.session.query
    let i := Input.answered (task.answer r.live.session.query (r.service.answer q).2)
    ∃ p', ({ r with live := r.live.take i, service := (r.service.answer q).1 } : Reading).Stands
        route pages delay told args p' ∧
      (r.live.take i).weight < r.live.weight := by
  intro q i
  rcases h.made.errand_or_mem ht with herrand | hmem
  · have hsame : (r.service.answer q).1 = r.service := by
      rcases herrand with rfl | rfl <;> rfl
    rw [← task.task_answer r.live.session.query (r.service.answer q).2] at herrand ht
    rw [hsame]
    exact ⟨p, h.learn herrand ht⟩
  · obtain ⟨handled, loaded, rfl, rfl⟩ := Progress.of_mem_inFlight hmem
    have hless : loaded < pageTotal pages := h.session.pager.within
    have hloaded := h.load hpages r.service.flags ht
    dsimp only at hloaded
    rw [← h.service.page_eq hpages hless] at hloaded
    exact ⟨_, hloaded⟩

theorem command {c : Command} (hpages : pages.length < UInt32.size)
    (h : r.Stands route pages delay told args p) (ho : r.live.Offers (.command c)) :
    ∃ p', ({ r with live := r.live.take (.command c) } : Reading).Stands route pages delay told args
        p' ∧
      (r.live.take (.command c)).weight < r.live.weight := by
  obtain ⟨rest, hq⟩ := List.head?_eq_some_iff.mp ho
  have hpoint := h.point
  rw [hq] at hpoint
  obtain ⟨rfl, rfl, handled, loaded, rfl, hless, hordered⟩ := hpoint.order
  obtain ⟨hstands, hstarted⟩ := h.session.order hpages hless
  refine ⟨.asked (handled + 1) loaded, ?_, Live.weight_take_command hq (by rw [hstarted]; simp)⟩
  exact
    { h with
      session := hstands
      unmade := by
        show Fetches _ (r.live.unmade ++ (r.live.session.step (.command .loadMore)).2)
        rw [hstarted]
        exact h.unmade.append_fetch _
      point := by
        show r.point.Fits pages args _ r.live.queue.tail r.sent
        rw [hq]
        exact hordered }

theorem send {left : Nat} {before : UInt32} (h : r.Stands route pages delay told args p)
    (hpoint : r.point = .sending left before) :
    ({ r with
      live := { r.live with queue := r.live.queue ++ [.loadMore] }
      sent := r.sent + 1
      point := .syncing left before (r.sent + 1) } : Reading).Stands route pages delay told args
        p := by
  have hfits := h.point
  rw [hpoint] at hfits
  obtain ⟨hq, loaded, rfl, hbefore, hfirst, hless, hgoal⟩ := hfits
  refine { h with point := ?_ }
  show Point.Fits pages args _ (r.live.queue ++ [.loadMore]) _ _
  rw [hq]
  exact ⟨r.sent, loaded, rfl, rfl, hbefore, hfirst, hless, hgoal, Or.inl ⟨rfl, rfl⟩⟩

/-- **Whatever happens next**, less is left to happen. -/
theorem move (hpages : pages.length < UInt32.size) (h : r.Stands route pages delay told args p)
    {r' : Reading} (hmove : r.Moves args r') :
    (∃ p', r'.Stands route pages delay told args p') ∧ r'.weight args < r.weight args := by
  cases hmove with
  | hear hnews =>
    obtain ⟨hstands, hweight⟩ := h.hear hnews
    refine ⟨⟨_, hstands⟩, ?_⟩
    unfold weight
    rw [hnews, List.length_cons]
    dsimp only
    omega
  | disconnect hopen hnews =>
    obtain ⟨_, _, hasked⟩ := h.session.keep .channelClosed
    have hweight := Live.weight_take_le (l := r.live) (i := .channelClosed) rfl hasked trivial
    refine ⟨⟨p, { h.keep .channelClosed rfl with }⟩, ?_⟩
    unfold weight
    rw [hopen]
    simp only [Input.answer?, Option.toList_none, List.length_nil, Bool.toNat_true,
      Bool.toNat_false] at hweight ⊢
    omega
  | passDeadline hoffers =>
    obtain ⟨_, _, hasked⟩ := h.session.keep .deadlinePassed
    have hweight := Live.weight_take_deadlinePassed hasked hoffers
    refine ⟨⟨p, h.keep .deadlinePassed rfl⟩, ?_⟩
    unfold weight
    dsimp only
    omega
  | call htask =>
    have hweight := Live.weight_call htask
    refine ⟨h.call htask, ?_⟩
    unfold weight
    dsimp only
    omega
  | answer htask =>
    obtain ⟨p', hstands, hweight⟩ := h.answer hpages htask
    refine ⟨⟨p', hstands⟩, ?_⟩
    unfold weight
    dsimp only
    omega
  | command hoffers =>
    obtain ⟨p', hstands, hweight⟩ := h.command hpages hoffers
    refine ⟨⟨p', hstands⟩, ?_⟩
    unfold weight
    dsimp only
    omega
  | look hlook =>
    obtain ⟨hview, hopen, _⟩ := h.session.view_eq
    have hweight := Point.weight_look hlook
    refine ⟨⟨p, { h with point := h.point.look hpages hview hopen hlook }⟩, ?_⟩
    unfold weight
    dsimp only
    omega
  | send hpoint hroom =>
    refine ⟨⟨p, h.send hpoint⟩, ?_⟩
    unfold weight Live.weight
    rw [hpoint]
    simp only [Point.weight, List.length_append, List.length_singleton]
    omega

/-- **A run does not get stuck** before it is over. -/
theorem exists_move (hpages : pages.length < UInt32.size)
    (h : r.Stands route pages delay told args p) (hranked : rankedNews route.id ∈ told)
    (hover : ∀ result, r.point ≠ .ended result) : ∃ r', r.Moves args r' := by
  by_contra hstuck
  have hnone (r' : Reading) : ¬ r.Moves args r' := fun hmove => hstuck ⟨r', hmove⟩
  have hunmade : r.live.unmade = [] := List.eq_nil_iff_forall_not_mem.mpr fun _ ht =>
    hnone _ (.call ht)
  have hmade : r.live.made = [] := List.eq_nil_iff_forall_not_mem.mpr fun _ ht =>
    hnone _ (.answer ht)
  have hnews : r.news = [] := by
    cases hnext : r.news with
    | nil => rfl
    | cons n rest => exact absurd (.hear hnext) (hnone _)
  have hqueue : r.live.queue = [] := by
    cases hnext : r.live.queue with
    | nil => rfl
    | cons c rest => exact absurd (.command (congrArg List.head? hnext)) (hnone _)
  -- With nothing left to hear, the query is ranked, and with no call left no page is on its way.
  obtain ⟨heard, rfl, hheard⟩ := h.heard
  rw [hnews, List.append_nil] at hranked
  have hasked := h.unmade.fetches
  rw [hunmade] at hasked
  have hawaited := h.made.fetches
  rw [hmade] at hawaited
  cases p with
  | unranked => cases hheard.mpr hranked
  | asked => cases hasked
  | awaited => cases hawaited
  | idle handled loaded =>
    have hfits := h.point
    rw [hqueue] at hfits
    rcases hfits.exists_look hpages h.session.view_eq.1 with
      ⟨next, hlook⟩ | ⟨left, before, hpoint⟩ | ⟨result, hpoint⟩
    · exact hnone _ (.look hlook)
    · refine hnone _ (.send hpoint ?_)
      rw [hqueue]
      exact h.capacity
    · exact hover result hpoint

theorem leads (hpages : pages.length < UInt32.size) (h : r.Stands route pages delay told args p)
    (hranked : rankedNews route.id ∈ told) :
    r.Leads args fun later => ∃ result, later.point = .ended result := by
  induction hweight : r.weight args using Nat.strong_induction_on generalizing r p with
  | _ weight ih =>
    by_cases hover : ∃ result, r.point = .ended result
    · exact .here hover
    · refine .next (h.exists_move hpages hranked (not_exists.mp hover)) fun r' hmove => ?_
      obtain ⟨⟨p', hstands⟩, hless⟩ := h.move hpages hmove
      exact ih _ (hweight ▸ hless) hstands rfl

/-- A run that is over has loaded what it was asked for, and it makes no difference whether its
session is closed. -/
theorem delivered {result : Except Fault Unit} (h : r.Stands route pages delay told args p)
    (hover : r.point = .ended result) :
    result = .ok () ∧
      Delivered route pages (pagesLoaded pages args) r.service r.live.session.view ∧
      Delivered route pages (pagesLoaded pages args) r.service r.live.session.close.view := by
  have hfits := h.point
  rw [hover] at hfits
  obtain ⟨hresult, _, rfl⟩ := hfits
  obtain ⟨hview, _, hroute⟩ := h.session.view_eq
  obtain ⟨hlast, hlastRoute⟩ := h.session.close_shows
  have hcount := one_le_pagesLoaded pages args
  exact ⟨hresult, .of_shows h.service.fetched hview hroute hcount,
    .of_shows h.service.fetched hlast hlastRoute hcount⟩

end Stands

theorem Reaches.stands (hpages : pages.length < UInt32.size) {origin : Reading}
    (horigin : origin.Stands route pages delay told args p) (h : origin.Reaches args r) :
    ∃ p', r.Stands route pages delay told args p' := by
  induction h with
  | start => exact ⟨p, horigin⟩
  | move _ hmove ih =>
    obtain ⟨p', hstands⟩ := ih
    exact (hstands.move hpages hmove).1

end Reading

/-! ## What a run loads -/

/-- **A run loads exactly the pages that it is asked for**: `max` of the number and one, or all that
there are. Its session may be told the news at whatever times before it is driven; then the run has
loaded its pages, unless the wait for the first is limited to less than its delay. And whatever
happens while the run waits, in whatever order: it comes to an end, and has loaded its pages then,
whether its session has been closed yet or not. -/
theorem loads_pages_asked_for {id : Query.Id} {phrase : Query.Phrase} {pages : List (List Item)}
    {delay : Nat} {news : List Notification} {args : Arguments}
    (hpages : pages.length < UInt32.size) (hranked : rankedNews id ∈ news)
    (hstays : StaysRanked id news) (htail : args.tailDistractors = false) :
    (∀ settings (t : Timeline Spy) limit,
      t.Attended { id, pages, delay } phrase settings news →
        args.waitSeconds.toNat * 1000 ≤ delay ∧
            (drive t args).2 = .error (.notRanked args.waitSeconds) ∨
          ∃ u w : Timeline Spy, drive t args = (u, .ok ()) ∧
            u.closeAndRelease limit = (w, .ok w.view) ∧
            Delivered ⟨id, phrase⟩ pages (pagesLoaded pages args) u.service u.view ∧
            Delivered ⟨id, phrase⟩ pages (pagesLoaded pages args) w.service w.view) ∧
      ∀ capacity, 1 ≤ capacity →
        let origin := Reading.start phrase { id, pages, delay } news capacity
        origin.Leads args (fun r => ∃ result, r.point = .ended result) ∧
          ∀ r result, origin.Reaches args r → r.point = .ended result →
            result = .ok () ∧
              Delivered ⟨id, phrase⟩ pages (pagesLoaded pages args) r.service
                r.live.session.view ∧
              Delivered ⟨id, phrase⟩ pages (pagesLoaded pages args) r.service
                r.live.session.close.view := by
  constructor
  · intro settings t limit hattended
    refine (drive_attended hpages hattended hranked hstays htail limit).imp_right ?_
    rintro ⟨u, w, hdriven, hclosed, _, hdelivered⟩
    exact ⟨u, w, hdriven, hclosed, hdelivered⟩
  · intro capacity hcapacity origin
    have hstart : origin.Stands ⟨id, phrase⟩ pages delay news args .unranked :=
      Reading.start_stands hstays hcapacity args
    refine ⟨hstart.leads hpages hranked, ?_⟩
    intro r result hreaches hover
    obtain ⟨p, hstands⟩ := hreaches.stands hpages hstart
    exact hstands.delivered hover

/-- A ranking whose last page is empty. -/
def threePages : List (List Item) :=
  [Service.sampleItems 1 2, Service.sampleItems 2 1, []]

/-- News of a query that is reported as ranked twice. -/
def rankedTwice : List Notification :=
  [⟨sampleRoute.id, .stage .ranking⟩, rankedNews sampleRoute.id,
    ⟨sampleRoute.id, .collectionFinished⟩, rankedNews sampleRoute.id]

theorem loads_pages_asked_for_two_of_three :
    let args : Arguments := { config := "visor.toml", query := "red bicycle", pages := 2 }
    (∃ t u w : Timeline Spy,
      t.Attended { id := sampleRoute.id, pages := threePages, delay := 40 } sampleRoute.phrase
          ⟨60000, 8⟩ rankedTwice ∧
        drive t args = (u, .ok ()) ∧ u.closeAndRelease 5000 = (w, .ok w.view) ∧
        Delivered sampleRoute threePages 2 w.service w.view) ∧
      (Reading.start sampleRoute.phrase
        { id := sampleRoute.id, pages := threePages, delay := 40 } rankedTwice 8).Leads args
          fun r => ∃ result, r.point = .ended result := by
  intro args
  have hstays : StaysRanked sampleRoute.id rankedTwice := by
    refine @staysRanked_append _ [⟨sampleRoute.id, .stage .ranking⟩] _ (by decide) ?_
    intro stage hmem
    simpa [rankedNews] using hmem
  obtain ⟨hclocked, hmeanwhile⟩ := @loads_pages_asked_for _ sampleRoute.phrase threePages 40 _ args
    (by decide) (by decide) hstays rfl
  obtain ⟨started, hstart, hrunning, hopen⟩ : ∃ t,
      Timeline.start ({ id := sampleRoute.id, pages := threePages, delay := 40 } : Spy)
          sampleRoute.phrase ⟨60000, 8⟩ = .ok t ∧
        (∃ s, t.status = .running s) ∧ t.channelOpen = true := ⟨_, rfl, ⟨_, rfl⟩, rfl⟩
  have htold := (attended_notifyAll (.start hstart) hrunning hopen rankedTwice).pass 25
  obtain ⟨u, w, hdriven, hclosed, _, hdelivered⟩ := (hclocked _ _ 5000 htold).resolve_left
    fun hlate => absurd hlate.1 (by decide)
  exact ⟨⟨_, u, w, htold, hdriven, hclosed, hdelivered⟩, (hmeanwhile 8 (by decide)).1⟩

end RankedSearch.CommandLine
