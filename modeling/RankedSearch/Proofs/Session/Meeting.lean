import RankedSearch.Proofs.Service.Conversation
import RankedSearch.Proofs.Session.Course
import RankedSearch.Proofs.Session.Unattended

/-! # A session and the server in memory

A session and the server go their own ways; between them calls, answers and notifications are on
their way, and each takes its time. Only notifications arrive in the order in which they were sent.
Nobody sends commands to the session, and nobody lets go of it.

The two can disagree for a while: the server is ahead of the stages that the session has heard of.
`Announced` says by how much, namely by what the channel still carries, and `Sound` adds the calls
that are on their way. -/
namespace RankedSearch.Session

open RankedSearch.Service (Backend CallKind Hosted IsRoot Request exchange)
open RankedSearch.Service.Backend (Hosts areFinite collected firstId)
open scoped List

/-! ## Meetings -/

/-- The answer to a call. -/
abbrev Returned := (r : Request) × Except Service.Fault r.Reply

/-- A session, the server it talks to, and what is on its way between the two. -/
structure Meeting where
  phase : Phase := .starting
  backend : Backend
  /-- The calls that the server has not taken in. -/
  requests : List Request := [.start]
  /-- The answers that the session has not taken in. -/
  replies : List Returned := []
  /-- The notifications that the session has not taken in, the oldest one first. -/
  inbox : List Notification := []

namespace Meeting

/-- A session that begins to start its query on a new server. -/
def start (pages : List (List Item)) : Meeting := { backend := { pages } }

/-- The server becomes another one, and what it has sent meanwhile sets out. -/
def relay (m : Meeting) (b : Backend) : Meeting :=
  { m with backend := b, inbox := m.inbox ++ b.sent.drop m.backend.sent.length }

/-- The server takes a call in, and its answer sets out. -/
def serve (m : Meeting) (base : Url) (r : Request) : Meeting :=
  { m.relay (exchange base m.backend r).1 with
    requests := m.requests.erase r
    replies := m.replies ++ [⟨r, (exchange base m.backend r).2⟩] }

@[simp] theorem relay_phase (m : Meeting) (b : Backend) : (m.relay b).phase = m.phase := by
  simp only [relay]

@[simp] theorem serve_phase (m : Meeting) (base : Url) (r : Request) :
    (m.serve base r).phase = m.phase := by
  simp only [serve, relay]

theorem serve_eq {m : Meeting} {base : Url} {r : Request} {b : Backend}
    {result : Except Service.Fault r.Reply} (h : exchange base m.backend r = (b, result)) :
    m.serve base r = { m.relay b with
      requests := m.requests.erase r, replies := m.replies ++ [⟨r, result⟩] } := by
  unfold serve
  rw [h]

/-- What a happening of the session does to what is on its way: a call sets out, and what the
session takes in has to have arrived. -/
inductive Carries (m : Meeting) : Happening → Meeting → Prop
  | called (r : Request) : Carries m (.called r) { m with requests := m.requests ++ [r] }
  | returned (before after : List Returned) {r : Request} {result : Except Service.Fault r.Reply}
      (h : m.replies = before ++ ⟨r, result⟩ :: after) :
      Carries m (.returned r result) { m with replies := before ++ after }
  | answered (before after : List Returned) {id : Query.Id} {task : Task} {started : List Task}
      {result : Except Service.Fault (task.request id).Reply} (hid : m.phase.query? = some id)
      (h : m.replies = before ++ ⟨task.request id, result⟩ :: after) :
      Carries m (.took ⟨.answered (task.answer id result), started⟩)
        { m with replies := before ++ after }
  | notified {n : Notification} {rest : List Notification} {started : List Task}
      (h : m.inbox = n :: rest) :
      Carries m (.took ⟨.notified n, started⟩) { m with inbox := rest }
  | deadlinePassed {started : List Task} : Carries m (.took ⟨.deadlinePassed, started⟩) m
  | published (v : View) : Carries m (.published v) m

inductive CarriesAll : Meeting → List Happening → Meeting → Prop
  | nil (m : Meeting) : CarriesAll m [] m
  | cons {m m' m'' : Meeting} {e : Happening} {es : List Happening} (h : m.Carries e m')
      (hs : CarriesAll m' es m'') : CarriesAll m (e :: es) m''

/-- What can happen: the session goes on, or the server takes in one of the calls. -/
inductive Moves (base : Url) (phrase : Query.Phrase) (m : Meeting) : Meeting → Prop
  | session {m' : Meeting} {es : List Happening} {p : Phase} (h : m.phase.Step phrase es p)
      (hs : m.CarriesAll es m') : Moves base phrase m { m' with phase := p }
  | serve {r : Request} (h : r ∈ m.requests) : Moves base phrase m (m.serve base r)

/-- What can become of a session and a new server with some pages. Data collection finishes for the
session's query, and be it several times, as long as the server has taken in no call for training;
or it never does. -/
inductive Reachable (base : Url) (pages : List (List Item)) (phrase : Query.Phrase) : Meeting → Prop
  | start : Reachable base pages phrase (.start pages)
  | move {m m' : Meeting} (r : Reachable base pages phrase m) (h : m.Moves base phrase m') :
      Reachable base pages phrase m'
  | complete {m : Meeting} {id : Query.Id} (r : Reachable base pages phrase m)
      (hid : m.phase.query? = some id) (htrain : m.backend.callCount .train = 0) :
      Reachable base pages phrase (m.relay (m.backend.completeCollection id))

end Meeting

/-- An answer is there for a call that was made. -/
theorem Live.offers_answer {l : Live} {id : Query.Id} {task : Task}
    {result : Except Service.Fault (task.request id).Reply} :
    l.Offers (.answered (task.answer id result)) ↔ task ∈ l.made := by
  show (task.answer id result).task ∈ l.made ↔ _
  rw [Task.task_answer]

/-! ## What the channel still carries -/

/-- The stage of a query after a notification. -/
def Notification.moves (stage : Stage) (n : Notification) : Stage :=
  match n.news with
  | .stage next => next
  | _ => stage

/-- A lifecycle that has `inbox` still to hear of a query that has come to a stage, for which
training was called `trainings` times and ranking `rankings` times. -/
structure Announced (l : Lifecycle) (inbox : List Notification) (stage : Stage)
    (trainings rankings : Nat) : Prop where
  query : ∀ n ∈ inbox, n.query = firstId
  calm : ∀ n ∈ inbox, ∀ message, n.news ≠ .failure message
  leads : inbox.foldl Notification.moves l.stage = stage
  trained : inbox.count ⟨firstId, .stage .trained⟩ + l.rankingFired.toNat = trainings
  ranked : inbox.count ⟨firstId, .stage .ranked⟩ + l.firstPageFired.toNat = rankings
  early : trainings = 0 → ∀ n ∈ inbox, ∀ next, n.news = .stage next → next ≤ .dataCollectionComplete
  last : rankings ≠ 0 → stage = .ranked

namespace Announced

variable {l : Lifecycle} {inbox : List Notification} {stage : Stage} {trainings rankings : Nat}

theorem init : Announced {} [] .dataCollecting 0 0 := by
  constructor <;> simp

/-- More is sent. -/
theorem send (h : Announced l inbox stage trainings rankings) {more : List Notification}
    {stage' : Stage} {trainings' rankings' : Nat} (hquery : ∀ n ∈ more, n.query = firstId)
    (hcalm : ∀ n ∈ more, ∀ message, n.news ≠ .failure message)
    (hstage : more.foldl Notification.moves stage = stage')
    (htrained : trainings + more.count ⟨firstId, .stage .trained⟩ = trainings')
    (hranked : rankings + more.count ⟨firstId, .stage .ranked⟩ = rankings')
    (hearly : trainings' = 0 → ∀ n ∈ more, ∀ next, n.news = .stage next →
      next ≤ .dataCollectionComplete)
    (hlast : rankings' ≠ 0 → stage' = .ranked) :
    Announced l (inbox ++ more) stage' trainings' rankings' where
  query := List.forall_mem_append.mpr ⟨h.query, hquery⟩
  calm := List.forall_mem_append.mpr ⟨h.calm, hcalm⟩
  leads := by rw [List.foldl_append, h.leads, hstage]
  trained := by
    have hold := h.trained
    rw [List.count_append]
    omega
  ranked := by
    have hold := h.ranked
    rw [List.count_append]
    omega
  early hzero := List.forall_mem_append.mpr ⟨h.early (by omega), hearly hzero⟩
  last := hlast

/-- What is heard goes from the channel into its latch, which has been open until then. -/
theorem latch_heard {carried total : Nat} {latch heard : Bool}
    (h : carried + (if heard = true then 1 else 0) + latch.toNat = total) (htotal : total ≤ 1) :
    carried + (latch || heard).toNat = total := by
  cases latch <;> cases heard <;> simp at h ⊢ <;> omega

/-- The oldest notification is heard. -/
theorem hear {n : Notification} (h : Announced l (n :: inbox) stage trainings rankings)
    (htrainings : trainings ≤ 1) (hrankings : rankings ≤ 1) {next : Stage}
    (hn : n.news = .stage next) :
    Announced (l.apply (.stageReported next)).1 inbox stage trainings rankings := by
  obtain ⟨hquery, hcalm⟩ := And.intro h.query h.calm
  rw [List.forall_mem_cons] at hquery hcalm
  have heq (other : Stage) : (n == ⟨firstId, .stage other⟩) = decide (next = other) := by
    obtain ⟨id, news⟩ := n
    obtain rfl : id = firstId := hquery.1
    obtain rfl : news = .stage next := hn
    rw [Bool.eq_iff_iff, beq_iff_eq, decide_eq_true_iff]
    simp
  obtain ⟨hranking, hpage⟩ := l.report_fired next
  refine ⟨hquery.2, hcalm.2, ?_, ?_, ?_, fun hzero => (List.forall_mem_cons.mp (h.early hzero)).2,
    h.last⟩
  · have hold := h.leads
    rw [List.foldl_cons, Notification.moves, hn] at hold
    rw [Lifecycle.stage_apply]
    exact hold
  · have hold := h.trained
    rw [List.count_cons, heq] at hold
    rw [hranking]
    exact latch_heard hold htrainings
  · have hold := h.ranked
    rw [List.count_cons, heq] at hold
    rw [hpage]
    exact latch_heard hold hrankings

/-- What tells of no stage is heard without consequence. -/
theorem skip {n : Notification} (h : Announced l (n :: inbox) stage trainings rankings)
    (hn : ∀ next, n.news ≠ .stage next) : Announced l inbox stage trainings rankings := by
  have hother (other : Stage) : (n == ⟨firstId, .stage other⟩) = false :=
    beq_eq_false_iff_ne.mpr fun he => hn other (congrArg Notification.news he)
  have hstage := h.leads
  have htrained := h.trained
  have hranked := h.ranked
  rw [List.count_cons, hother] at htrained hranked
  refine ⟨(List.forall_mem_cons.mp h.query).2, (List.forall_mem_cons.mp h.calm).2, ?_, htrained,
    hranked, fun hzero => (List.forall_mem_cons.mp (h.early hzero)).2, h.last⟩
  rw [List.foldl_cons, Notification.moves] at hstage
  cases hnews : n.news with
  | stage next => exact absurd hnews (hn next)
  | imageProcessed _ | collectionFinished | failure _ => rwa [hnews] at hstage

theorem passDeadline (h : Announced l inbox stage trainings rankings) :
    Announced (l.apply .deadlinePassed).1 inbox stage trainings rankings := by
  obtain ⟨hranking, hpage⟩ := l.passDeadline_fired
  refine ⟨h.query, h.calm, ?_, ?_, ?_, h.early, h.last⟩
  · rw [Lifecycle.stage_apply]
    exact h.leads
  · rw [hranking]
    exact h.trained
  · rw [hpage]
    exact h.ranked

/-- The server has trained, and says so. -/
theorem train (h : Announced l inbox stage 0 rankings) (hrankings : rankings = 0) :
    Announced l (inbox ++ [⟨firstId, .stage .training⟩, ⟨firstId, .stage .trained⟩]) .trained 1
      rankings := by
  subst hrankings
  exact h.send (by simp) (by simp) rfl rfl rfl (by simp) (by simp)

/-- The server has ranked, and says so. -/
theorem rank (h : Announced l inbox stage 1 0) :
    Announced l (inbox ++ [⟨firstId, .stage .ranking⟩, ⟨firstId, .stage .ranked⟩]) .ranked 1 1 :=
  h.send (by simp) (by simp) rfl rfl rfl (by simp) (by simp)

/-- Data collection has finished before any training. -/
theorem collect (h : Announced l inbox stage 0 rankings) (hrankings : rankings = 0) :
    Announced l (inbox ++ collected) .dataCollectionComplete 0 rankings := by
  subst hrankings
  refine h.send ?_ ?_ rfl rfl rfl ?_ (fun hne => absurd rfl hne)
  · simp [collected]
  · simp [collected]
  · simp +decide [collected]

end Announced

/-! ## What is on its way -/

/-- The answers that the session waits for: all went well, and the page is the first one. -/
inductive Kept (paths : List String) : Returned → Prop
  | start : Kept paths ⟨.start, .ok firstId⟩
  | submit (phrase : Query.Phrase) : Kept paths ⟨.submit firstId phrase, .ok ()⟩
  | train : Kept paths ⟨.train firstId, .ok ()⟩
  | rank : Kept paths ⟨.rank firstId, .ok ()⟩
  | page {page : Page} (hnumber : page.number = 1) (hpaths : page.items.map (·.path) = paths) :
      Kept paths ⟨.page firstId 1, .ok page⟩

/-- The call of an action's errand. -/
def Action.request (a : Action) : Request := a.errand.request firstId

/-- The paths on the first page. -/
def firstPaths (pages : List (List Item)) : List String := (pages.getD 0 []).map (·.path)

/-- An answer that is taken in is no longer awaited. -/
theorem awaited_erase {awaited rest requests : List Request} {before after : List Returned}
    {reply : Returned} (h : awaited ~ requests ++ (before ++ reply :: after).map (·.1))
    (hrest : awaited ~ reply.1 :: rest) : rest ~ requests ++ (before ++ after).map (·.1) := by
  rw [List.map_append, List.map_cons, ← List.append_assoc] at h
  rw [List.map_append, ← List.append_assoc]
  exact ((hrest.symm.trans h).trans List.perm_middle).cons_inv

/-- A session that has one query on the server, with what is on its way between the two. The session
may still wait for the answers to the calls that open it. -/
structure Sound (pages : List (List Item)) (phrase : Query.Phrase) (opening : List Request)
    (m : Meeting) (l : Live) : Prop where
  told : ∃ body, Told phrase firstId body l
  opens : ∀ r ∈ opening, r = .submit firstId phrase
  unattended : l.left = false ∧ l.queue = []
  /-- Each answer that the session waits for is being asked for or is on its way. -/
  awaited : opening ++ l.made.map (·.request firstId) ~ m.requests ++ m.replies.map (·.1)
  errands : ∀ task ∈ l.unmade ++ l.made, ∃ a : Action, task = a.errand
  kept : ∀ reply ∈ m.replies, Kept (firstPaths pages) reply
  /-- What was asked for is still to be taken in by the server, or has been taken in once. -/
  asked : ∀ a : Action, (l.unmade.map (·.request firstId) ++ m.requests).count a.request +
    m.backend.callCount a.request.kind = (l.session.lifecycle.fired a).toNat
  timed : l.session.lifecycle.Timed
  pager : l.session.lifecycle.firstPageFired = false ∧ l.session.pager = {} ∨
    l.session.lifecycle.firstPageFired = true ∧ l.session.pager.Opens (firstPaths pages)
  calm : l.session.view.lastError = none
  hosted : ∃ h, Hosts pages h m.backend ∧ h.flags = [] ∧
    Announced l.session.lifecycle m.inbox h.stage (m.backend.callCount .train)
      (m.backend.callCount .rank)

namespace Sound

variable {pages : List (List Item)} {phrase : Query.Phrase} {opening : List Request} {m : Meeting}
  {l : Live}

theorem query_eq (h : Sound pages phrase opening m l) : l.session.query = firstId := by
  obtain ⟨body, htold⟩ := h.told
  exact htold.query_eq

theorem callCount_le (h : Sound pages phrase opening m l) (a : Action) :
    m.backend.callCount a.request.kind ≤ (l.session.lifecycle.fired a).toNat := by
  have hasked := h.asked a
  omega

theorem fired_of_called (h : Sound pages phrase opening m l) (a : Action)
    (hcalled : m.backend.callCount a.request.kind ≠ 0) : l.session.lifecycle.fired a = true := by
  have hle := h.callCount_le a
  cases hfired : l.session.lifecycle.fired a with
  | true => rfl
  | false =>
    rw [hfired, Bool.toNat_false] at hle
    omega

/-- A call that is on its way opens the session or is an errand. -/
theorem of_mem_requests (h : Sound pages phrase opening m l) {r : Request} (hr : r ∈ m.requests) :
    r = .submit firstId phrase ∨ ∃ a : Action, r = a.request := by
  have hawaited := h.awaited.mem_iff.mpr (List.mem_append_left _ hr)
  rcases List.mem_append.mp hawaited with hopening | hmade
  · exact Or.inl (h.opens r hopening)
  · obtain ⟨task, htask, rfl⟩ := List.mem_map.mp hmade
    obtain ⟨a, rfl⟩ := h.errands task (List.mem_append_right _ htask)
    exact Or.inr ⟨a, rfl⟩

/-- The calls on their way are told apart by their kinds. -/
theorem eq_iff_kind_eq (h : Sound pages phrase opening m l) {r : Request} (hr : r ∈ m.requests)
    (a : Action) : (r == a.request) = (r.kind == a.request.kind) := by
  rw [Bool.eq_iff_iff, beq_iff_eq, beq_iff_eq]
  refine ⟨congrArg Request.kind, fun hkind => ?_⟩
  rcases h.of_mem_requests hr with rfl | ⟨b, rfl⟩
  · cases a <;> cases hkind
  · rw [Action.kind_errand_inj hkind]

/-- An errand that is on its way was asked for, and the server has not been called for it. -/
theorem of_errand_mem (h : Sound pages phrase opening m l) {a : Action}
    (ha : a.request ∈ m.requests) :
    l.session.lifecycle.fired a = true ∧ m.backend.callCount a.request.kind = 0 := by
  have hasked := h.asked a
  have hpos : 0 < (l.unmade.map (·.request firstId) ++ m.requests).count a.request :=
    List.count_pos_iff.mpr (List.mem_append_right _ ha)
  have hle := (l.session.lifecycle.fired a).toNat_le
  cases hfired : l.session.lifecycle.fired a with
  | true => exact ⟨rfl, by omega⟩
  | false =>
    rw [hfired, Bool.toNat_false] at hasked
    omega

theorem kept_split (h : Sound pages phrase opening m l) {before after : List Returned}
    {reply : Returned} (hm : m.replies = before ++ reply :: after) :
    Kept (firstPaths pages) reply ∧ ∀ other ∈ before ++ after, Kept (firstPaths pages) other := by
  have hkept := h.kept
  rw [hm, List.forall_mem_append, List.forall_mem_cons] at hkept
  obtain ⟨hbefore, hreply, hafter⟩ := hkept
  exact ⟨hreply, List.forall_mem_append.mpr ⟨hbefore, hafter⟩⟩

/-- The server is asked to rank only after it has been asked to train. -/
theorem rank_le_train (h : Sound pages phrase opening m l) :
    m.backend.callCount .rank ≤ m.backend.callCount .train := by
  obtain ⟨q, _, _, hannounced⟩ := h.hosted
  have hrank : m.backend.callCount .rank ≤ l.session.lifecycle.rankingFired.toNat :=
    h.callCount_le .beginRanking
  have htrained := hannounced.trained
  omega

theorem rephase (h : Sound pages phrase opening m l) (p : Phase) :
    Sound pages phrase opening { m with phase := p } l := { h with }

/-! ### The server takes a call in -/

theorem answer {base : Url} (h : Sound pages phrase opening m l) {r : Request} (hr : r ∈ m.requests)
    {b : Backend} {result : Except Service.Fault r.Reply}
    (he : exchange base m.backend r = (b, result))
    (hcalls : b.calls = r.kind :: m.backend.calls) (hkept : Kept (firstPaths pages) ⟨r, result⟩)
    (hhosted : ∃ h', Hosts pages h' b ∧ h'.flags = [] ∧
      Announced l.session.lifecycle (m.inbox ++ b.sent.drop m.backend.sent.length) h'.stage
        (b.callCount .train) (b.callCount .rank)) :
    Sound pages phrase opening (m.serve base r) l := by
  rw [Meeting.serve_eq he]
  refine
    { h with
      awaited := ?_
      kept := ?_
      asked := ?_
      hosted := hhosted }
  · calc opening ++ l.made.map (·.request firstId)
      _ ~ m.requests ++ m.replies.map (·.1) := h.awaited
      _ ~ r :: m.requests.erase r ++ m.replies.map (·.1) :=
        (List.perm_cons_erase hr).append_right _
      _ ~ m.requests.erase r ++ m.replies.map (·.1) ++ [r] :=
        (List.perm_append_singleton r _).symm
      _ = m.requests.erase r ++ (m.replies ++ [(⟨r, result⟩ : Returned)]).map (·.1) := by
        rw [List.map_append, List.append_assoc]
        rfl
  · intro reply hreply
    rcases List.mem_append.mp hreply with hold | hnew
    · exact h.kept reply hold
    · rw [List.mem_singleton.mp hnew]
      exact hkept
  · intro a
    have hold := h.asked a
    have hperm : l.unmade.map (·.request firstId) ++ m.requests ~
        r :: (l.unmade.map (·.request firstId) ++ m.requests.erase r) :=
      ((List.perm_cons_erase hr).append_left _).trans List.perm_middle
    rw [hperm.count_eq, List.count_cons, h.eq_iff_kind_eq hr a] at hold
    show _ + b.calls.count _ = _
    rw [hcalls, List.count_cons]
    unfold Backend.callCount at hold
    dsimp only at hold ⊢
    omega

theorem serve {base : Url} (h : Sound pages phrase opening m l) (hbase : IsRoot base)
    (hcount : pages.length < UInt32.size) (hfinite : areFinite pages = true) {r : Request}
    (hr : r ∈ m.requests) : Sound pages phrase opening (m.serve base r) l := by
  obtain ⟨q, hq, hflags, hannounced⟩ := h.hosted
  have hfewer := h.rank_le_train
  have honce := Nat.le_trans (h.callCount_le .beginTraining) (Bool.toNat_le _)
  rcases h.of_mem_requests hr with rfl | ⟨a, rfl⟩
  · refine h.answer hr (Service.Backend.exchange_submit hbase hq phrase) rfl (.submit phrase)
      ⟨_, ⟨hq.pages, hq.failing, rfl⟩, hflags, ?_⟩
    simpa [Backend.callCount] using hannounced
  · obtain ⟨hfired, hzero⟩ := h.of_errand_mem hr
    cases a with
    | beginTraining =>
      have hnone : m.backend.callCount .train = 0 := hzero
      refine h.answer hr (Service.Backend.exchange_train hbase hq) rfl .train
        ⟨_, ⟨hq.pages, hq.failing, rfl⟩, hflags, ?_⟩
      rw [hnone] at hannounced
      have hnew := hannounced.train (by omega)
      unfold Backend.callCount at hnone hnew ⊢
      rw [List.drop_left, List.count_cons_self, List.count_cons_of_ne (by decide), hnone]
      exact hnew
    | beginRanking =>
      have hnone : m.backend.callCount .rank = 0 := hzero
      have hranking : l.session.lifecycle.rankingFired = true := hfired
      have hone : m.backend.callCount .train = 1 := by
        have htrained := hannounced.trained
        rw [hranking, Bool.toNat_true] at htrained
        have hle : m.backend.callCount .train ≤ 1 := honce
        omega
      refine h.answer hr (Service.Backend.exchange_rank hbase hq) rfl .rank
        ⟨_, ⟨hq.pages, hq.failing, rfl⟩, hflags, ?_⟩
      rw [hnone, hone] at hannounced
      have hnew := hannounced.rank
      unfold Backend.callCount at hnone hone ⊢
      rw [List.drop_left, List.count_cons_self, List.count_cons_of_ne (by decide), hnone, hone]
      exact hnew
    | fetchFirstPage =>
      have hpage : l.session.lifecycle.firstPageFired = true := hfired
      have hranked : q.stage = .ranked := by
        have hrankings := hannounced.ranked
        rw [hpage, Bool.toNat_true] at hrankings
        exact hannounced.last (by omega)
      obtain ⟨page, hexchange, hnumber, hpaths⟩ :=
        Service.Backend.exchange_firstPage hbase hq hranked hflags hcount hfinite
      refine h.answer hr hexchange rfl (.page hnumber hpaths)
        ⟨_, ⟨hq.pages, hq.failing, hq.queries⟩, hflags, ?_⟩
      simpa [Backend.callCount] using hannounced

/-- Data collection finishes on the server. -/
theorem collect (h : Sound pages phrase opening m l) (htrain : m.backend.callCount .train = 0) :
    Sound pages phrase opening (m.relay (m.backend.completeCollection firstId)) l := by
  obtain ⟨q, hq, hflags, hannounced⟩ := h.hosted
  have hfewer := h.rank_le_train
  rw [hq.completeCollection_eq]
  refine { h with hosted := ⟨_, ⟨hq.pages, hq.failing, rfl⟩, hflags, ?_⟩ }
  rw [htrain] at hannounced
  have hnew := hannounced.collect (by omega)
  unfold Backend.callCount at htrain hnew ⊢
  show Announced _ (m.inbox ++ (m.backend.sent ++ _).drop _) _ (m.backend.calls.count .train) _
  rw [List.drop_left, htrain]
  exact hnew

/-! ### The session goes on -/

/-- The call of a task begins. -/
theorem call (h : Sound pages phrase opening m l) {task : Task} (ht : task ∈ l.unmade) :
    Sound pages phrase opening
      { m with requests := m.requests ++ [task.request l.session.query] } (l.call task) := by
  obtain ⟨body, htold⟩ := h.told
  rw [h.query_eq]
  refine
    { h with
      told := ⟨_, htold.call ht⟩
      awaited := ?_
      errands := ?_
      asked := ?_ }
  · calc opening ++ (l.made ++ [task]).map (·.request firstId)
      _ = opening ++ l.made.map (·.request firstId) ++ [task.request firstId] := by
        rw [List.map_append, List.append_assoc]
        rfl
      _ ~ m.requests ++ m.replies.map (·.1) ++ [task.request firstId] := h.awaited.append_right _
      _ ~ m.requests ++ ([task.request firstId] ++ m.replies.map (·.1)) := by
        rw [List.append_assoc]
        exact List.perm_append_comm.append_left _
      _ = m.requests ++ [task.request firstId] ++ m.replies.map (·.1) :=
        (List.append_assoc ..).symm
  · intro other hother
    refine h.errands other ?_
    rcases List.mem_append.mp hother with hunmade | hmade
    · exact List.mem_append_left _ (List.mem_of_mem_erase hunmade)
    · rcases List.mem_append.mp hmade with hmade | hnew
      · exact List.mem_append_right _ hmade
      · rw [List.mem_singleton.mp hnew]
        exact List.mem_append_left _ ht
  · intro a
    have hunmade : l.unmade.map (·.request firstId) ~
        task.request firstId :: (l.unmade.erase task).map (·.request firstId) :=
      (List.perm_cons_erase ht).map _
    have hperm :=
      calc (l.unmade.erase task).map (·.request firstId) ++
          (m.requests ++ [task.request firstId])
        _ ~ (l.unmade.erase task).map (·.request firstId) ++
            task.request firstId :: m.requests :=
          (List.perm_append_singleton ..).append_left _
        _ ~ task.request firstId ::
            ((l.unmade.erase task).map (·.request firstId) ++ m.requests) := List.perm_middle
        _ ~ l.unmade.map (·.request firstId) ++ m.requests :=
          hunmade.symm.append_right m.requests
    exact (congrArg (· + _) (hperm.count_eq _)).trans (h.asked a)

/-- Nothing is loaded when the first page is asked for. -/
theorem fresh (h : Sound pages phrase opening m l) {i : Input}
    (hasks : l.session.asks i = some .fetchFirstPage) :
    l.session.lifecycle.firstPageFired = false ∧ l.session.pager = {} := by
  obtain ⟨t, _, hact⟩ := Option.bind_eq_some_iff.mp hasks
  have hopen : l.session.lifecycle.firstPageFired = false := Lifecycle.apply_fresh hact
  exact h.pager.resolve_right fun hlate => Bool.false_ne_true (hopen.symm.trans hlate.1)

theorem unmade_take (h : Sound pages phrase opening m l) {i : Input} (hi : i.answer? = none)
    (hc : i.command? = none) :
    (l.take i).unmade = l.unmade ++ ((l.session.asks i).map Action.errand).toList := by
  have hstarted := ((l.session.reacts i).of_outside hi hc fun hasks => (h.fresh hasks).2).1
  rw [← hstarted]
  rfl

theorem errands_take (h : Sound pages phrase opening m l) {i : Input} (hi : i.answer? = none)
    (hc : i.command? = none) :
    ∀ task ∈ (l.take i).unmade ++ (l.take i).made, ∃ a : Action, task = a.errand := by
  rw [Live.made_take hi, h.unmade_take hi hc]
  intro task htask
  rw [List.append_assoc, List.mem_append, List.mem_append] at htask
  rcases htask with hold | hnew | hold
  · exact h.errands task (List.mem_append_left _ hold)
  · obtain ⟨a, _, rfl⟩ := Option.map_eq_some_iff.mp (Option.mem_toList.mp hnew)
    exact ⟨a, rfl⟩
  · exact h.errands task (List.mem_append_right _ hold)

/-- The latch of an action closes as its call is added to those that are to be made. -/
theorem asked_take (h : Sound pages phrase opening m l) {i : Input} (hi : i.answer? = none)
    (hc : i.command? = none) (a : Action) :
    ((l.take i).unmade.map (·.request firstId) ++ m.requests).count a.request +
      m.backend.callCount a.request.kind = ((l.take i).session.lifecycle.fired a).toNat := by
  have hasked := h.asked a
  have hnew := Action.count_request_errand (l.session.asks i) a firstId
  rw [Live.take_session, Running.step_fst, Running.publish_lifecycle,
    (l.session.reacts i).toNat_fired, h.unmade_take hi hc, List.map_append]
  unfold Action.request at hasked ⊢
  simp only [List.count_append] at hasked ⊢
  omega

theorem pager_take (h : Sound pages phrase opening m l) {i : Input} (hi : i.answer? = none)
    (hc : i.command? = none) :
    (l.take i).session.lifecycle.firstPageFired = false ∧ (l.take i).session.pager = {} ∨
      (l.take i).session.lifecycle.firstPageFired = true ∧
        (l.take i).session.pager.Opens (firstPaths pages) := by
  have hr := l.session.reacts i
  rw [Live.take_session, Running.step_fst, Running.publish_lifecycle, Running.publish_pager,
    (hr.of_outside hi hc fun hasks => (h.fresh hasks).2).2]
  by_cases hasks : l.session.asks i = some .fetchFirstPage
  · have hpage := hr.toNat_fired .fetchFirstPage
    unfold Lifecycle.fired at hpage
    rw [(h.fresh hasks).1, if_pos hasks] at hpage
    rw [if_pos hasks]
    exact Or.inr ⟨by simpa using hpage, Or.inl rfl⟩
  · have hsame : (l.session.react i).1.lifecycle.firstPageFired =
        l.session.lifecycle.firstPageFired := hr.fired_eq hasks
    rw [if_neg hasks, hsame]
    exact h.pager

theorem calm_take (h : Sound pages phrase opening m l) {i : Input}
    (hcalm : i.complaint? firstId = none) : (l.take i).session.view.lastError = none := by
  obtain ⟨body, htold⟩ := h.told
  rw [Live.take_session, Running.step_lastError (Run.upToDate htold.run).mirror_eq, h.query_eq,
    hcalm, h.calm]
  rfl

/-- Something is taken in that is not an answer. -/
theorem hear (h : Sound pages phrase opening m l) {i : Input} (ho : l.Offers i)
    (hi : i.answer? = none) (hc : i.command? = none) (hcalm : i.complaint? firstId = none)
    {next : Lifecycle} (hnext : (l.session.react i).1.lifecycle = next) (htimed : next.Timed)
    {inbox : List Notification}
    (hannounced : ∀ stage trainings rankings, trainings ≤ 1 → rankings ≤ 1 →
      Announced l.session.lifecycle m.inbox stage trainings rankings →
      Announced next inbox stage trainings rankings) :
    Sound pages phrase opening { m with inbox } (l.take i) := by
  subst hnext
  obtain ⟨body, htold⟩ := h.told
  obtain ⟨q, hq, hflags, hold⟩ := h.hosted
  refine
    { told := ⟨_, htold.take ho⟩
      opens := h.opens
      unattended := ?_
      awaited := by rw [Live.made_take hi]; exact h.awaited
      errands := h.errands_take hi hc
      kept := h.kept
      asked := h.asked_take hi hc
      timed := htimed
      pager := h.pager_take hi hc
      calm := h.calm_take hcalm
      hosted := ⟨q, hq, hflags, hannounced _ _ _ ?_ ?_ hold⟩ }
  · rw [Live.queue_take hc]
    exact h.unattended
  · exact Nat.le_trans (h.callCount_le .beginTraining) (Bool.toNat_le _)
  · exact Nat.le_trans (h.callCount_le .beginRanking) (Bool.toNat_le _)

/-- A notification is taken in. Stages past data collection are reported only once training has been
asked for. -/
theorem hear_notified (h : Sound pages phrase opening m l) {n : Notification}
    {rest : List Notification} (hm : m.inbox = n :: rest) :
    Sound pages phrase opening { m with inbox := rest } (l.take (.notified n)) := by
  obtain ⟨q, _, _, hannounced⟩ := h.hosted
  have hmem : n ∈ m.inbox := by rw [hm]; exact List.mem_cons_self ..
  have hquery : n.query = l.session.query := (hannounced.query n hmem).trans h.query_eq.symm
  have hcalm : Input.complaint? firstId (.notified n) = none :=
    Input.complaint?_notified (hannounced.calm n hmem)
  have hlife := (l.session.reacts (.notified n)).lifecycle_eq
  by_cases hstage : ∃ stage, n.news = .stage stage
  · obtain ⟨stage, hn⟩ := hstage
    rw [Running.trigger?_stage hquery hn] at hlife
    refine h.hear (i := .notified n) trivial rfl rfl hcalm hlife (h.timed.report ?_) ?_
    · by_cases htrain : m.backend.callCount .train = 0
      · exact Or.inl (hannounced.early htrain n hmem stage hn)
      · exact Or.inr (h.fired_of_called .beginTraining htrain)
    · intro stage trainings rankings htrainings hrankings hold
      rw [hm] at hold
      exact hold.hear htrainings hrankings hn
  · have hother : ∀ stage, n.news ≠ .stage stage := fun stage hn => hstage ⟨stage, hn⟩
    rw [Running.trigger?_other hother] at hlife
    refine h.hear (i := .notified n) trivial rfl rfl hcalm hlife h.timed ?_
    intro stage trainings rankings _ _ hold
    rw [hm] at hold
    exact hold.skip hother

/-- The deadline passes. -/
theorem hear_deadline (h : Sound pages phrase opening m l) (ho : l.Offers .deadlinePassed) :
    Sound pages phrase opening m (l.take .deadlinePassed) :=
  h.hear ho rfl rfl rfl (l.session.reacts .deadlinePassed).lifecycle_eq h.timed.passDeadline
    fun _ _ _ _ _ hold => hold.passDeadline

/-- An answer is taken in that starts nothing. -/
theorem settle (h : Sound pages phrase opening m l) {a : Answer} {before after : List Returned}
    {reply : Returned} (hm : m.replies = before ++ reply :: after) (ho : l.Offers (.answered a))
    (hreply : reply.1 = a.task.request firstId) (hstarted : (l.session.step (.answered a)).2 = [])
    (hfault : a.fault? = none)
    (hpager : (l.session.step (.answered a)).1.pager = l.session.pager ∨
      l.session.lifecycle.firstPageFired = true ∧
        (l.session.step (.answered a)).1.pager.Opens (firstPaths pages)) :
    Sound pages phrase opening { m with replies := before ++ after } (l.take (.answered a)) := by
  obtain ⟨body, htold⟩ := h.told
  have hlife : (l.session.step (.answered a)).1.lifecycle = l.session.lifecycle :=
    (l.session.reacts (.answered a)).lifecycle_of_answer
  have hunmade : (l.take (.answered a)).unmade = l.unmade := by
    unfold Live.take
    rw [hstarted]
    exact List.append_nil _
  have hmade : a.task ∈ l.made := ho
  have hcalm : Input.complaint? firstId (.answered a) = none := by
    unfold Input.complaint? Input.news?
    simp [Input.answer?, hfault]
  refine
    { told := ⟨_, htold.take ho⟩
      opens := h.opens
      unattended := h.unattended
      awaited := ?_
      errands := ?_
      kept := (h.kept_split hm).2
      asked := by rw [hunmade, Live.take_session, hlife]; exact h.asked
      timed := by rw [Live.take_session, hlife]; exact h.timed
      pager := ?_
      calm := h.calm_take hcalm
      hosted := by rw [Live.take_session, hlife]; exact h.hosted }
  · refine awaited_erase (hm ▸ h.awaited) ?_
    rw [hreply]
    calc opening ++ l.made.map (·.request firstId)
      _ ~ opening ++ a.task.request firstId :: (l.made.erase a.task).map (·.request firstId) :=
        ((List.perm_cons_erase hmade).map (·.request firstId)).append_left opening
      _ ~ a.task.request firstId :: (opening ++ (l.made.erase a.task).map (·.request firstId)) :=
        List.perm_middle
  · rw [hunmade]
    intro task htask
    refine h.errands task ?_
    exact (List.erase_sublist.append_left l.unmade).subset htask
  · rw [Live.take_session, hlife]
    rcases hpager with hsame | hloaded
    · rw [hsame]
      exact h.pager
    · exact Or.inr hloaded

/-- The first page is awaited, so that nothing is loaded yet. -/
theorem opens_loaded (h : Sound pages phrase opening m l) (hmade : .fetch 1 ∈ l.made) {page : Page}
    (hnumber : page.number = 1) (hpaths : page.items.map (·.path) = firstPaths pages) :
    l.session.lifecycle.firstPageFired = true ∧
      (l.session.pager.completeFetch 1 page).Opens (firstPaths pages) := by
  obtain ⟨body, htold⟩ := h.told
  have hloading : l.session.pager.loading = true :=
    (Run.accounted htold.run).loading_iff.mpr
      ⟨1, htold.tasks.mem_iff.mpr (List.mem_append_right _ hmade)⟩
  rcases h.pager with ⟨_, hfresh⟩ | ⟨hfired, hopens | ⟨hidle, _⟩⟩
  · rw [hfresh] at hloading
    cases hloading
  · rw [hopens]
    exact ⟨hfired, Pager.opens_completeFetch hnumber hpaths⟩
  · rw [hidle] at hloading
    cases hloading

/-- The answer to an errand is taken in. -/
theorem settle_errand (h : Sound pages phrase opening m l) {before after : List Returned}
    {task : Task} {result : Except Service.Fault (task.request firstId).Reply}
    (hm : m.replies = before ++ ⟨task.request firstId, result⟩ :: after) (hmade : task ∈ l.made) :
    Sound pages phrase opening { m with replies := before ++ after }
      (l.take (.answered (task.answer firstId result))) := by
  have ho : l.Offers (.answered (task.answer firstId result)) := Live.offers_answer.mpr hmade
  have hkept := (h.kept_split hm).1
  obtain ⟨a, rfl⟩ := h.errands task (List.mem_append_right _ hmade)
  cases a with
  | beginTraining =>
    cases hkept
    exact h.settle hm ho rfl rfl rfl (Or.inl rfl)
  | beginRanking =>
    cases hkept
    exact h.settle hm ho rfl rfl rfl (Or.inl rfl)
  | fetchFirstPage =>
    cases hkept with
    | page hnumber hpaths =>
      exact h.settle hm ho rfl rfl rfl (Or.inr (h.opens_loaded hmade hnumber hpaths))

end Sound

end RankedSearch.Session
