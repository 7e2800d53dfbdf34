import RankedSearch.Proofs.Session.Outstanding
import RankedSearch.Proofs.Session.Published

/-! # The course of a session, from its start to its release

Around the run of a session stand the calls that open and end it, and its user, who sends commands
into a queue and lets go of the session some day. A course is one interleaving of all of these, with
a log of what happens. The call of a task begins some time after the task was started, so that a
session may end while some of its calls have not begun. `Course.reads` says what logs look like. -/
namespace RankedSearch.Session

open RankedSearch.Service (Request)
open scoped List

inductive Happening
  /-- A call begins. -/
  | called (r : Request)
  /-- A call that opens or ends a session returns. -/
  | returned (r : Request) (result : Except Service.Fault r.Reply)
  /-- The session takes an input in. -/
  | took (e : Event)
  | published (v : View)
  /-- A command is accepted from the user. -/
  | sent (c : Command)
  /-- The user lets go of the session. -/
  | left

/-- A session that runs, with its calls and its user. -/
structure Live where
  session : Running
  /-- The tasks whose call has not begun. -/
  unmade : List Task := []
  /-- The tasks whose call has begun and not returned. -/
  made : List Task := []
  /-- The commands that were accepted and not taken in. -/
  queue : List Command := []
  left : Bool := false

namespace Live

/-- Whether an input is there to be taken in: an answer of a call that was made, the oldest command
of the queue, or what comes from outside. -/
def Offers (l : Live) : Input → Prop
  | .answered a => a.task ∈ l.made
  | .command c => l.queue.head? = some c
  | i => l.session.Accepts i

/-- Takes an input in. The calls of the tasks that it starts are still to be made. -/
def take (l : Live) (i : Input) : Live :=
  { l with
    session := (l.session.step i).1
    unmade := l.unmade ++ (l.session.step i).2
    made := i.answer?.elim l.made fun a => l.made.erase a.task
    queue := i.command?.elim l.queue fun _ => l.queue.tail }

/-- Makes the call of a task. -/
def call (l : Live) (task : Task) : Live :=
  { l with unmade := l.unmade.erase task, made := l.made ++ [task] }

@[simp] theorem take_session (l : Live) (i : Input) :
    (l.take i).session = (l.session.step i).1 := rfl

theorem made_take {l : Live} {i : Input} (h : i.answer? = none) : (l.take i).made = l.made := by
  unfold take
  rw [h]
  rfl

theorem queue_take {l : Live} {i : Input} (h : i.command? = none) :
    (l.take i).queue = l.queue := by
  unfold take
  rw [h]
  rfl

@[simp] theorem call_session (l : Live) (task : Task) : (l.call task).session = l.session := rfl

@[simp] theorem call_queue (l : Live) (task : Task) : (l.call task).queue = l.queue := rfl

end Live

inductive Phase
  | starting
  /-- The query could not be started. -/
  | unstarted
  | submitting (id : Query.Id)
  | live (l : Live)
  /-- The session is over, and its query not released yet. -/
  | finished (id : Query.Id)
  | releasing (id : Query.Id)
  | released (id : Query.Id)

/-- What can happen next. A session that its user has let go of ends when it has taken in the
commands sent before; what is outstanding is dropped. -/
inductive Phase.Step (phrase : Query.Phrase) : Phase → List Happening → Phase → Prop
  | unstarted (fault : Service.Fault) :
      Step phrase .starting [.returned .start (.error fault)] .unstarted
  | started (id : Query.Id) :
      Step phrase .starting [.returned .start (.ok id), .called (.submit id phrase)]
        (.submitting id)
  | refused (id : Query.Id) (fault : Service.Fault) :
      Step phrase (.submitting id) [.returned (.submit id phrase) (.error fault)] (.finished id)
  | accepted (id : Query.Id) :
      Step phrase (.submitting id)
        [.returned (.submit id phrase) (.ok ()), .published (Running.init ⟨id, phrase⟩).view]
        (.live { session := .init ⟨id, phrase⟩ })
  | send (l : Live) (c : Command) :
      Step phrase (.live l) [.sent c] (.live { l with queue := l.queue ++ [c] })
  | leave (l : Live) : Step phrase (.live l) [.left] (.live { l with left := true })
  | take {l : Live} (i : Input) (h : l.Offers i) :
      Step phrase (.live l)
        [.took ⟨i, (l.session.step i).2⟩, .published (l.session.step i).1.view] (.live (l.take i))
  | call {l : Live} {task : Task} (h : task ∈ l.unmade) :
      Step phrase (.live l) [.called (task.request l.session.query)] (.live (l.call task))
  | close {l : Live} (hl : l.left = true) (hq : l.queue = []) :
      Step phrase (.live l) [.published l.session.close.view] (.finished l.session.query)
  | release (id : Query.Id) : Step phrase (.finished id) [.called (.release id)] (.releasing id)
  | released (id : Query.Id) (result : Except Service.Fault Unit) :
      Step phrase (.releasing id) [.returned (.release id) result] (.released id)

/-- The courses of a session that asks for a phrase. -/
inductive Course (phrase : Query.Phrase) : List Happening → Phase → Prop
  | start : Course phrase [.called .start] .starting
  | step {log es : List Happening} {p q : Phase} (c : Course phrase log p)
      (h : p.Step phrase es q) : Course phrase (log ++ es) q

/-- Nothing of what happens is the user's doing. -/
def Unprompted (es : List Happening) : Prop := .left ∉ es ∧ ∀ c, .sent c ∉ es

/-! ## What a log holds -/

namespace Happening

def call? : Happening → Option Request
  | .called r => some r
  | _ => none

def event? : Happening → Option Event
  | .took e => some e
  | _ => none

def view? : Happening → Option View
  | .published v => some v
  | _ => none

def command? : Happening → Option Command
  | .sent c => some c
  | _ => none

end Happening

/-- The calls that were made, in the order in which they began. -/
def calls (log : List Happening) : List Request := log.filterMap Happening.call?

/-- The run of the session. -/
def events (log : List Happening) : List Event := log.filterMap Happening.event?

def views (log : List Happening) : List View := log.filterMap Happening.view?

/-- The commands that were accepted, in order. -/
def sent (log : List Happening) : List Command := log.filterMap Happening.command?

section

variable (h : Happening) (xs ys : List Happening)

@[simp] theorem calls_append : calls (xs ++ ys) = calls xs ++ calls ys := List.filterMap_append
@[simp] theorem events_append : events (xs ++ ys) = events xs ++ events ys := List.filterMap_append
@[simp] theorem views_append : views (xs ++ ys) = views xs ++ views ys := List.filterMap_append
@[simp] theorem sent_append : sent (xs ++ ys) = sent xs ++ sent ys := List.filterMap_append

@[simp] theorem calls_nil : calls [] = [] := rfl
@[simp] theorem events_nil : events [] = [] := rfl
@[simp] theorem views_nil : views [] = [] := rfl
@[simp] theorem sent_nil : sent [] = [] := rfl

@[simp] theorem calls_cons : calls (h :: xs) = h.call?.toList ++ calls xs := by
  unfold calls; cases hc : h.call? <;> simp [hc]

@[simp] theorem events_cons : events (h :: xs) = h.event?.toList ++ events xs := by
  unfold events; cases hc : h.event? <;> simp [hc]

@[simp] theorem views_cons : views (h :: xs) = h.view?.toList ++ views xs := by
  unfold views; cases hc : h.view? <;> simp [hc]

@[simp] theorem sent_cons : sent (h :: xs) = h.command?.toList ++ sent xs := by
  unfold sent; cases hc : h.command? <;> simp [hc]

end

/-- Something holds of each thing that happens and of what has happened before it. -/
def Throughout (P : List Happening → Happening → Prop) (log : List Happening) : Prop :=
  ∀ before x after, log = before ++ x :: after → P before x

theorem throughout_append {P : List Happening → Happening → Prop} {xs ys : List Happening} :
    Throughout P (xs ++ ys) ↔
      Throughout P xs ∧ Throughout (fun before x => P (xs ++ before) x) ys := by
  constructor
  · intro h
    exact ⟨fun before x after hs => h before x (after ++ ys) (by simp [hs]),
      fun before x after hs => h (xs ++ before) x after (by simp [hs])⟩
  · rintro ⟨hfirst, hlater⟩ before x after hs
    rcases List.append_eq_append_iff.mp hs with ⟨mid, rfl, hys⟩ | ⟨mid, hxs, hys⟩
    · exact hlater mid x after hys
    · cases mid with
      | nil =>
        rw [List.append_nil] at hxs
        rw [List.nil_append] at hys
        simpa [hxs] using hlater [] x after hys.symm
      | cons y rest =>
        cases hys
        exact hfirst before x rest hxs

theorem throughout_singleton {P : List Happening → Happening → Prop} {x : Happening} :
    Throughout P [x] ↔ P [] x := by
  refine ⟨fun h => h [] x [] rfl, fun h before y after hs => ?_⟩
  cases before with
  | nil => cases hs; exact h
  | cons z rest => simp at hs

theorem throughout_of_forall {P : List Happening → Happening → Prop} {log : List Happening}
    (h : ∀ x ∈ log, ∀ before, P before x) : Throughout P log := by
  rintro before x after rfl
  exact h x (List.mem_append_right _ (List.mem_cons_self ..)) before

/-- Nobody asks for more pages before a view has shown the query as ranked. -/
def Gated (log : List Happening) : Prop :=
  Throughout (fun before x => x = .sent .loadMore → ∃ v ∈ views before, v.isRanked = true) log

namespace Gated

variable {log : List Happening}

theorem of_not_mem (h : .sent .loadMore ∉ log) : Gated log :=
  throughout_of_forall fun _ hx _ he => absurd (he ▸ hx) h

theorem append (h : Gated log) {later : List Happening} (hl : .sent .loadMore ∉ later) :
    Gated (log ++ later) :=
  throughout_append.mpr ⟨h, throughout_of_forall fun _ hx _ he => absurd (he ▸ hx) hl⟩

theorem send_iff {c : Command} :
    Gated (log ++ [.sent c]) ↔
      Gated log ∧ (c = .loadMore → ∃ v ∈ views log, v.isRanked = true) := by
  simp [Gated, throughout_append, throughout_singleton]

end Gated

/-! ## A session and its calls -/

theorem Task.request_query? (task : Task) (id : Query.Id) : (task.request id).query? = some id := by
  cases task <;> rfl

/-- The calls for training and ranking are told from all others. -/
theorem Action.call?_request {a : Action} {task other : Task} {id : Query.Id}
    (hc : a.call? = some task) (h : other.request id = task.request id) : other = task := by
  cases a <;> cases hc <;> cases other <;> first | rfl | cases h

/-- An action's call is started when its latch closes, and nothing else with it. -/
theorem Running.Reacts.of_call_mem {s s' : Running} {i : Input} {started : List Task}
    (h : s.Reacts i s' started) {a : Action} {task : Task} (hc : a.call? = some task)
    (hm : task ∈ started) :
    started = [task] ∧ s.lifecycle.fired a = false ∧ s'.lifecycle.fired a = true := by
  obtain ⟨hupdate, hfetch⟩ := Action.call?_eq_some hc
  cases h with
  | @call _ t b other v _ ht hb hother =>
    cases List.mem_singleton.mp hm
    obtain rfl := Action.call?_inj hother hc
    exact ⟨rfl, Lifecycle.apply_fresh hb, (s.lifecycle.apply_fired t b).mpr (Or.inr hb)⟩
  | fetch => cases List.mem_singleton.mp hm; cases hfetch
  | flags v _ =>
    refine absurd hm (startFlags_induction (P := fun _ started => task ∉ started) _
      List.not_mem_nil fun _ _ index item _ ih => ?_)
    rw [List.mem_append, List.mem_singleton, not_or]
    refine ⟨ih, ?_⟩
    rintro rfl
    cases hupdate
  | accepted => cases List.mem_singleton.mp hm; cases hupdate
  | shown | heard | called | loaded | missed | refused | confirmed => cases hm

/-- No more calls of an action are started than its latch allows. -/
theorem Running.Reacts.count_call {s s' : Running} {i : Input} {started : List Task}
    (h : s.Reacts i s' started) {a : Action} {task : Task} (hc : a.call? = some task) :
    started.count task + (s.lifecycle.fired a).toNat ≤ (s'.lifecycle.fired a).toNat := by
  by_cases hm : task ∈ started
  · obtain ⟨hs, hopen, hclosed⟩ := h.of_call_mem hc hm
    rw [hs, hopen, hclosed, List.count_singleton_self]
    exact Nat.le_refl _
  · rw [List.count_eq_zero_of_not_mem hm, Nat.zero_add, h.lifecycle_eq]
    cases s.trigger? i with
    | none => exact Nat.le_refl _
    | some t => exact s.lifecycle.fired_le_apply t a

theorem perm_append_erase {t : Task} {tasks xs ys : List Task} (h : tasks ~ xs ++ ys)
    (hm : t ∈ ys) : tasks.erase t ~ xs ++ ys.erase t := by
  have hfirst := (h.trans ((List.perm_cons_erase hm).append_left xs)).trans List.perm_middle
  exact (hfirst.erase t).trans (by rw [List.erase_cons_head])

/-- What a log tells of a session while it runs. -/
structure Told (phrase : Query.Phrase) (id : Query.Id) (body : List Happening) (l : Live) :
    Prop where
  run : Run ⟨id, phrase⟩ (events body) l.session
  tasks : l.session.tasks.Perm (l.unmade ++ l.made)
  sent : sent body = commands (events body) ++ l.queue
  calls : ∀ r ∈ calls body, ∃ task : Task, r = task.request id
  once : ∀ a task, a.call? = some task →
    (Session.calls body).count (task.request id) + l.unmade.count task ≤
      (l.session.lifecycle.fired a).toNat
  views : ∀ v ∈ views body, v.closed = false
  last : ((Running.init ⟨id, phrase⟩).view :: Session.views body).getLast? = some l.session.view
  /-- The calls that open and end a session return outside of its run. -/
  framed : ∀ r result, .returned r result ∉ body

namespace Told

variable {phrase : Query.Phrase} {id : Query.Id} {body : List Happening} {l : Live}

theorem query_eq (h : Told phrase id body l) : l.session.query = id :=
  (Run.upToDate h.run).query_eq

theorem init : Told phrase id [] { session := .init ⟨id, phrase⟩ } where
  run := .refl
  tasks := .nil
  sent := rfl
  calls := by simp
  once _ _ _ := by simp
  views := by simp
  last := rfl
  framed := by simp

theorem send (h : Told phrase id body l) (c : Command) :
    Told phrase id (body ++ [.sent c]) { l with queue := l.queue ++ [c] } where
  run := by simpa [Happening.event?] using h.run
  tasks := h.tasks
  sent := by simp [Happening.event?, Happening.command?, h.sent]
  calls := by simpa [Happening.call?] using h.calls
  once := by simpa [Happening.call?] using h.once
  views := by simpa [Happening.view?] using h.views
  last := by simpa [Happening.view?] using h.last
  framed := by simpa using h.framed

theorem leave (h : Told phrase id body l) :
    Told phrase id (body ++ [.left]) { l with left := true } where
  run := by simpa [Happening.event?] using h.run
  tasks := h.tasks
  sent := by simpa [Happening.event?, Happening.command?] using h.sent
  calls := by simpa [Happening.call?] using h.calls
  once := by simpa [Happening.call?] using h.once
  views := by simpa [Happening.view?] using h.views
  last := by simpa [Happening.view?] using h.last
  framed := by simpa using h.framed

theorem call (h : Told phrase id body l) {task : Task} (hm : task ∈ l.unmade) :
    Told phrase id (body ++ [.called (task.request l.session.query)]) (l.call task) where
  run := by simpa [Happening.event?] using h.run
  tasks := by
    refine h.tasks.trans (((List.perm_cons_erase hm).append_right _).trans ?_)
    show _ ~ l.unmade.erase task ++ (l.made ++ [task])
    rw [← List.append_assoc]
    exact (List.perm_append_singleton task _).symm
  sent := by simpa [Happening.event?, Happening.command?] using h.sent
  calls := by
    intro r hr
    rw [calls_append, List.mem_append] at hr
    rcases hr with hr | hr
    · exact h.calls r hr
    · exact ⟨task, by simpa [Happening.call?, h.query_eq] using hr⟩
  once a other hc := by
    have hsame : (task.request id == other.request id) = (task == other) := by
      rw [Bool.eq_iff_iff, beq_iff_eq, beq_iff_eq]
      exact ⟨Action.call?_request hc, fun he => by rw [he]⟩
    have hcalled : (Session.calls (body ++ [.called (task.request l.session.query)])).count
        (other.request id) = (Session.calls body).count (other.request id) +
          (task == other).toNat := by
      rw [h.query_eq, calls_append, List.count_append, ← hsame]
      cases hb : task.request id == other.request id <;> simp [Happening.call?, List.count_cons, hb]
    have hunmade := countP_erase_add (p := (· == other)) hm
    have hold := h.once a other hc
    rw [hcalled]
    simp only [List.count, Live.call] at hold hunmade ⊢
    omega
  views := by simpa [Happening.view?] using h.views
  last := by simpa [Happening.view?] using h.last
  framed := by simpa using h.framed

/-- What is there to be taken in can come in. -/
theorem accepts (h : Told phrase id body l) {i : Input} (hi : l.Offers i) :
    l.session.Accepts i := by
  cases i with
  | answered a => exact h.tasks.mem_iff.mpr (List.mem_append_right _ hi)
  | command c => trivial
  | notified _ | channelClosed | deadlinePassed => exact hi

theorem take (h : Told phrase id body l) {i : Input} (hi : l.Offers i) :
    Told phrase id
      (body ++ [.took ⟨i, (l.session.step i).2⟩, .published (l.session.step i).1.view])
      (l.take i) where
  run := by simpa [Happening.event?] using h.run.step i (h.accepts hi)
  tasks := by
    have hsettled : (i.answer?.elim l.session.tasks fun a => l.session.tasks.erase a.task) ~
        l.unmade ++ i.answer?.elim l.made fun a => l.made.erase a.task := by
      cases i with
      | answered a => exact perm_append_erase h.tasks hi
      | notified _ | channelClosed | deadlinePassed | command _ => exact h.tasks
    show (l.session.react i).1.tasks ~ _
    rw [(l.session.reacts i).tasks_eq]
    refine (hsettled.append_right _).trans ?_
    simp only [Live.take, List.append_assoc]
    exact List.perm_append_comm.append_left _
  sent := by
    have hqueue : l.queue = i.command?.toList ++ i.command?.elim l.queue fun _ => l.queue.tail := by
      cases i with
      | command c =>
        obtain ⟨rest, hq⟩ := List.head?_eq_some_iff.mp hi
        simp [Input.command?, hq]
      | notified _ | channelClosed | deadlinePassed | answered _ => rfl
    have hold := h.sent
    rw [hqueue] at hold
    simpa [Happening.command?, Happening.event?, commands_snoc, Live.take] using hold
  calls := by simpa [Happening.call?] using h.calls
  once a task hc := by
    have hold := h.once a task hc
    have hnew := (l.session.reacts i).count_call hc
    simp only [calls_append, calls_cons, Happening.call?, Live.take, List.count_append] at hold ⊢
    simp
    omega
  views := by
    intro v hv
    rw [views_append, List.mem_append] at hv
    rcases hv with hv | hv
    · exact h.views v hv
    · have hnext := Run.upToDate (h.run.step i (h.accepts hi))
      simp only [views_cons, Happening.view?, Option.toList, List.nil_append, List.append_nil,
        views_nil, List.mem_singleton] at hv
      rw [hv, hnext.view]
      rfl
  last := by simp [Happening.view?, List.getLast?_cons]
  framed := by simpa using h.framed

end Told

/-! ## Logs -/

/-- The log of a session that has just submitted its words. -/
def submitted (phrase : Query.Phrase) (id : Query.Id) : List Happening :=
  [.called .start, .returned .start (.ok id), .called (.submit id phrase)]

theorem Course.submitting (phrase : Query.Phrase) (id : Query.Id) :
    Course phrase (submitted phrase id) (.submitting id) := Course.start.step (.started id)

/-- The log of a session that has just begun to run. -/
def opened (phrase : Query.Phrase) (id : Query.Id) : List Happening :=
  submitted phrase id ++
    [.returned (.submit id phrase) (.ok ()), .published (Running.init ⟨id, phrase⟩).view]

theorem events_opened (phrase : Query.Phrase) (id : Query.Id) (body : List Happening) :
    events (opened phrase id ++ body) = events body := by
  simp [opened, submitted, Happening.event?]

/-- The log of a session that is over: its words were refused, or it has published its last view. -/
inductive Ended (phrase : Query.Phrase) (id : Query.Id) : List Happening → Prop
  | refused (fault : Service.Fault) :
      Ended phrase id (submitted phrase id ++ [.returned (.submit id phrase) (.error fault)])
  | closed {body : List Happening} {l : Live} (h : Told phrase id body l) (hq : l.queue = []) :
      Ended phrase id (opened phrase id ++ body ++ [.published l.session.close.view])

/-- What a log looks like in a phase. -/
def Phase.Reads (phrase : Query.Phrase) (log : List Happening) : Phase → Prop
  | .starting => log = [.called .start]
  | .unstarted => ∃ fault, log = [.called .start, .returned .start (.error fault)]
  | .submitting id => log = submitted phrase id
  | .live l => ∃ id body, log = opened phrase id ++ body ∧ Told phrase id body l
  | .finished id => Ended phrase id log
  | .releasing id => ∃ before, Ended phrase id before ∧ log = before ++ [.called (.release id)]
  | .released id => ∃ before result, Ended phrase id before ∧
      log = before ++ [.called (.release id), .returned (.release id) result]

/-- **What logs look like.** -/
theorem Course.reads {phrase : Query.Phrase} {log : List Happening} {p : Phase}
    (c : Course phrase log p) : p.Reads phrase log := by
  induction c with
  | start => rfl
  | step c h ih =>
    cases h with
    | unstarted fault => cases ih; exact ⟨fault, rfl⟩
    | started id => cases ih; rfl
    | refused id fault => cases ih; exact .refused fault
    | accepted id => cases ih; exact ⟨id, [], (List.append_nil _).symm, Told.init⟩
    | send l cmd =>
      obtain ⟨id, body, rfl, h⟩ := ih
      exact ⟨id, _, List.append_assoc .., h.send cmd⟩
    | leave l =>
      obtain ⟨id, body, rfl, h⟩ := ih
      exact ⟨id, _, List.append_assoc .., h.leave⟩
    | take i hi =>
      obtain ⟨id, body, rfl, h⟩ := ih
      exact ⟨id, _, List.append_assoc .., h.take hi⟩
    | call hm =>
      obtain ⟨id, body, rfl, h⟩ := ih
      exact ⟨id, _, List.append_assoc .., h.call hm⟩
    | close hl hq =>
      obtain ⟨id, body, rfl, h⟩ := ih
      rw [h.query_eq]
      exact .closed h hq
    | release id => exact ⟨_, ih, rfl⟩
    | released id result =>
      obtain ⟨before, h, rfl⟩ := ih
      exact ⟨before, result, h, List.append_assoc ..⟩

/-! ## Logs of a query that was started -/

namespace Phase

/-- The query of a session, once it was started. -/
def query? : Phase → Option Query.Id
  | .starting | .unstarted => none
  | .submitting id | .finished id | .releasing id | .released id => some id
  | .live l => some l.session.query

/-- Whether the session is over. -/
def ended : Phase → Bool
  | .finished _ | .releasing _ | .released _ => true
  | .starting | .unstarted | .submitting _ | .live _ => false

/-- The release, once it was called. -/
def release? : Phase → Option Request
  | .releasing id | .released id => some (.release id)
  | _ => none

end Phase

/-- A query that was started stays the query of the course. -/
theorem Course.query?_step {phrase : Query.Phrase} {log es : List Happening} {p q : Phase}
    (c : Course phrase log p) (h : p.Step phrase es q) : ∀ id ∈ p.query?, id ∈ q.query? := by
  cases h with
  | take i hi =>
    obtain ⟨id, body, _, told⟩ := c.reads
    intro x hx
    rw [Phase.query?, told.query_eq] at hx
    rw [Phase.query?, (told.take hi).query_eq]
    exact hx
  | unstarted | started => intro _ hx; cases hx
  | refused | accepted | send | leave | call | close | release | released => exact fun _ hx => hx

/-- The view of a session that runs is the last of its course. -/
theorem Course.view_eq {phrase : Query.Phrase} {log : List Happening} {l : Live} {v : View}
    (c : Course phrase log (.live l)) (hv : (views log).getLast? = some v) :
    l.session.view = v := by
  obtain ⟨id, body, rfl, told⟩ := c.reads
  have hlast : (views (opened phrase id ++ body)).getLast? = some l.session.view := by
    simpa [opened, submitted, Happening.view?] using told.last
  exact Option.some.inj (hlast.symm.trans hv)

/-- A log up to the release. -/
inductive Front (phrase : Query.Phrase) (id : Query.Id) : List Happening → Prop
  | submitting : Front phrase id (submitted phrase id)
  | live {body : List Happening} {l : Live} (h : Told phrase id body l) :
      Front phrase id (opened phrase id ++ body)
  | ended {log : List Happening} (h : Ended phrase id log) : Front phrase id log

/-- A log from the release on, as far as the phase has come. -/
structure Tail (id : Query.Id) (p : Phase) (log : List Happening) : Prop where
  calls : calls log = p.release?.toList
  returned : ∀ r result, .returned r result ∈ log → r = .release id

/-- The log of a query that was started falls into what comes before its release and the rest. -/
theorem Course.split {phrase : Query.Phrase} {id : Query.Id} {log : List Happening} {p : Phase}
    (c : Course phrase log p) (hp : p.query? = some id) :
    ∃ front tail, log = front ++ tail ∧ Front phrase id front ∧ Tail id p tail ∧
      (p.ended = true → Ended phrase id front) := by
  have h := c.reads
  have hnil {q : Phase} (hq : q.release? = none) : Tail id q [] := ⟨by rw [hq]; rfl, by simp⟩
  cases p with
  | starting | unstarted => cases hp
  | submitting id =>
    cases hp
    cases h
    exact ⟨_, [], (List.append_nil _).symm, .submitting, hnil rfl, fun he => by cases he⟩
  | live l =>
    obtain ⟨id, body, rfl, h⟩ := h
    cases hp.symm.trans (congrArg some h.query_eq)
    exact ⟨_, [], (List.append_nil _).symm, .live h, hnil rfl, fun he => by cases he⟩
  | finished id =>
    cases hp
    exact ⟨log, [], (List.append_nil _).symm, .ended h, hnil rfl, fun _ => h⟩
  | releasing id =>
    cases hp
    obtain ⟨before, h, rfl⟩ := h
    exact ⟨before, _, rfl, .ended h, ⟨rfl, by simp⟩, fun _ => h⟩
  | released id =>
    cases hp
    obtain ⟨before, result, h, rfl⟩ := h
    exact ⟨before, _, rfl, .ended h, ⟨rfl, by simp +contextual⟩, fun _ => h⟩

end RankedSearch.Session
