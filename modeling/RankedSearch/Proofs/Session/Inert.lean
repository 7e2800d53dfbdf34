import Mathlib.Data.List.Destutter
import RankedSearch.EventStream
import RankedSearch.Proofs.Session.Course

/-! # What leaves no trace in a session

A course can be played move by move, so that two courses can be compared whose moves differ. Some
moves are inert: events without a notification, news of other queries, what a query reports apart
from its stage, and the answers of the training and ranking calls. The core of a session is what is
left of it without its outstanding calls and without the fields of the view that such moves are
noted in. A step depends on the core alone, and an inert move leaves it as it is; so nothing else
in a course tells whether inert moves were made. -/
namespace RankedSearch.Session

open RankedSearch.Service (Request)
open scoped List

/-! ## Moves -/

/-- Whether the session of a query does no more about an input than to note it down. -/
def Input.isInert (id : Query.Id) : Input → Bool
  | .notified n =>
    if n.query = id then
      match n.news with
      | .stage _ => false
      | .imageProcessed _ | .collectionFinished | .failure _ => true
    else true
  | .answered (.trained _) | .answered (.ranked _) => true
  | .channelClosed | .deadlinePassed | .command _ | .answered _ => false

/-- What can be next in a course. -/
inductive Move
  /-- The call that starts the query returns. -/
  | opened (result : Except Service.Fault Query.Id)
  /-- The call that submits its words returns. -/
  | submitted (result : Except Service.Fault Unit)
  /-- An event of the stream comes in, with or without a notification. -/
  | event (e : EventStream.Event)
  | take (i : Input)
  | send (c : Command)
  | leave
  | call (task : Task)
  | close
  | release
  /-- The call that releases the query returns. -/
  | released (result : Except Service.Fault Unit)

namespace Move

def isInert (id : Query.Id) : Move → Bool
  | .event e => e.notification?.all fun n => (Input.notified n).isInert id
  | .take i => i.isInert id
  | _ => false

/-- The task whose answer a move takes in. -/
def settled? : Move → Option Task
  | .take (.answered a) => some a.task
  | _ => none

end Move

/-- `kept` is what is left of `moves` if some inert moves are deleted; `unheard` are the tasks whose
answers are among these. -/
inductive Spared (id : Query.Id) : List Move → List Move → List Task → Prop
  | nil : Spared id [] [] []
  | keep (m : Move) {moves kept : List Move} {unheard : List Task}
      (h : Spared id moves kept unheard) : Spared id (m :: moves) (m :: kept) unheard
  | drop {m : Move} {moves kept : List Move} {unheard : List Task} (hm : m.isInert id = true)
      (h : Spared id moves kept unheard) :
      Spared id (m :: moves) kept (m.settled?.toList ++ unheard)

theorem Spared.called {id : Query.Id} {moves kept : List Move} {unheard : List Task}
    (h : Spared id moves kept unheard) : ∀ task ∈ unheard, task = .train ∨ task = .rank := by
  induction h with
  | nil => simp
  | keep m _ ih => exact ih
  | @drop m moves kept unheard hm _ ih =>
    intro task htask
    rcases List.mem_append.mp htask with hsettled | hlater
    · cases m with
      | take i =>
        cases i with
        | answered a =>
          cases List.mem_singleton.mp hsettled
          cases a with
          | trained _ => exact Or.inl rfl
          | ranked _ => exact Or.inr rfl
          | fetched _ _ | flagged _ _ | refreshed _ _ => cases hm
        | notified _ | channelClosed | deadlinePassed | command _ => cases hsettled
      | event _ | opened _ | submitted _ | send _ | leave | call _ | close | release
        | released _ => cases hsettled
    · exact ih task hlater

/-! ## Courses that are given by their moves -/

instance Live.decidableOffers (l : Live) : (i : Input) → Decidable (l.Offers i)
  | .answered a => inferInstanceAs (Decidable (a.task ∈ l.made))
  | .command c => inferInstanceAs (Decidable (l.queue.head? = some c))
  | .deadlinePassed => inferInstanceAs (Decidable (l.session.lifecycle.timerArmed = true))
  | .notified _ | .channelClosed => isTrue trivial

/-- What happens as an input is taken in. -/
def Live.taking (l : Live) (i : Input) : List Happening :=
  [.took ⟨i, (l.session.step i).2⟩, .published (l.session.step i).1.view]

namespace Phase

/-- What happens in a move, if it can be made. -/
def play (phrase : Query.Phrase) : Phase → Move → Option (List Happening × Phase)
  | .starting, .opened (.error fault) =>
    some ([.returned .start (.error fault)], .unstarted)
  | .starting, .opened (.ok id) =>
    some ([.returned .start (.ok id), .called (.submit id phrase)], .submitting id)
  | .submitting id, .submitted (.error fault) =>
    some ([.returned (.submit id phrase) (.error fault)], .finished id)
  | .submitting id, .submitted (.ok ()) =>
    some ([.returned (.submit id phrase) (.ok ()), .published (Running.init ⟨id, phrase⟩).view],
      .live { session := .init ⟨id, phrase⟩ })
  | .live l, .event e =>
    match e.notification? with
    | some n => some (l.taking (.notified n), .live (l.take (.notified n)))
    | none => some ([], .live l)
  | .live l, .take i => if l.Offers i then some (l.taking i, .live (l.take i)) else none
  | .live l, .send c => some ([.sent c], .live { l with queue := l.queue ++ [c] })
  | .live l, .leave => some ([.left], .live { l with left := true })
  | .live l, .call task =>
    if task ∈ l.unmade then
      some ([.called (task.request l.session.query)], .live (l.call task))
    else none
  | .live l, .close =>
    if l.left = true ∧ l.queue = [] then
      some ([.published l.session.close.view], .finished l.session.query)
    else none
  | .finished id, .release => some ([.called (.release id)], .releasing id)
  | .releasing id, .released result => some ([.returned (.release id) result], .released id)
  | _, _ => none

def plays (phrase : Query.Phrase) (p : Phase) : List Move → Option (List Happening × Phase)
  | [] => some ([], p)
  | m :: rest =>
    match p.play phrase m with
    | some (es, q) => (q.plays phrase rest).map fun (later, r) => (es ++ later, r)
    | none => none

variable {phrase : Query.Phrase}

theorem plays_cons {p r : Phase} {m : Move} {rest : List Move} {log : List Happening} :
    p.plays phrase (m :: rest) = some (log, r) ↔
      ∃ es q later, p.play phrase m = some (es, q) ∧ q.plays phrase rest = some (later, r) ∧
        log = es ++ later := by
  rw [plays]
  cases hm : p.play phrase m with
  | none => simp
  | some played =>
    obtain ⟨es, q⟩ := played
    dsimp only
    rw [Option.map_eq_some_iff]
    constructor
    · rintro ⟨⟨later, _⟩, hrest, heq⟩
      cases heq
      exact ⟨es, q, later, rfl, hrest, rfl⟩
    · rintro ⟨_, _, later, heq, hrest, rfl⟩
      cases heq
      exact ⟨(later, r), hrest, rfl⟩

theorem plays_snoc {p q r : Phase} {m : Move} {moves : List Move} {log es : List Happening}
    (h : p.plays phrase moves = some (log, q)) (hm : q.play phrase m = some (es, r)) :
    p.plays phrase (moves ++ [m]) = some (log ++ es, r) := by
  induction moves generalizing p log with
  | nil =>
    cases h
    exact plays_cons.mpr ⟨es, r, [], hm, rfl, (List.append_nil es).symm⟩
  | cons first rest ih =>
    obtain ⟨before, p', later, hfirst, hrest, rfl⟩ := plays_cons.mp h
    exact plays_cons.mpr ⟨before, p', later ++ es, hfirst, ih hrest, List.append_assoc ..⟩

/-- A move is a step of the course, or an event without a notification. -/
theorem step_of_play {p q : Phase} {m : Move} {es : List Happening}
    (h : p.play phrase m = some (es, q)) : p.Step phrase es q ∨ es = [] ∧ q = p := by
  unfold play at h
  split at h
  · cases h; exact Or.inl (.unstarted _)
  · cases h; exact Or.inl (.started _)
  · cases h; exact Or.inl (.refused _ _)
  · cases h; exact Or.inl (.accepted _)
  · split at h
    · cases h; exact Or.inl (.take _ trivial)
    · cases h; exact Or.inr ⟨rfl, rfl⟩
  · split at h
    · cases h; exact Or.inl (.take _ ‹_›)
    · cases h
  · cases h; exact Or.inl (.send _ _)
  · cases h; exact Or.inl (.leave _)
  · split at h
    · cases h; exact Or.inl (.call ‹_›)
    · cases h
  · split at h
    · rename_i hleft
      cases h
      exact Or.inl (.close hleft.1 hleft.2)
    · cases h
  · cases h; exact Or.inl (.release _)
  · cases h; exact Or.inl (.released _ _)
  · cases h

theorem Step.exists_play {p q : Phase} {es : List Happening} (h : p.Step phrase es q) :
    ∃ m, p.play phrase m = some (es, q) := by
  cases h with
  | unstarted fault => exact ⟨.opened (.error fault), rfl⟩
  | started id => exact ⟨.opened (.ok id), rfl⟩
  | refused id fault => exact ⟨.submitted (.error fault), rfl⟩
  | accepted id => exact ⟨.submitted (.ok ()), rfl⟩
  | send l c => exact ⟨.send c, rfl⟩
  | leave l => exact ⟨.leave, rfl⟩
  | take i hi => exact ⟨.take i, if_pos hi⟩
  | @call l task hm => exact ⟨.call task, if_pos hm⟩
  | close hl hq => exact ⟨.close, if_pos ⟨hl, hq⟩⟩
  | release id => exact ⟨.release, rfl⟩
  | released id result => exact ⟨.released result, rfl⟩

end Phase

namespace Course

variable {phrase : Query.Phrase} {log later : List Happening} {p q : Phase}

theorem play {m : Move} (c : Course phrase log p) (h : p.play phrase m = some (later, q)) :
    Course phrase (log ++ later) q := by
  rcases Phase.step_of_play h with hstep | ⟨rfl, rfl⟩
  · exact c.step hstep
  · rwa [List.append_nil]

theorem plays {moves : List Move} (c : Course phrase log p)
    (h : p.plays phrase moves = some (later, q)) : Course phrase (log ++ later) q := by
  induction moves generalizing log later p with
  | nil =>
    cases h
    rwa [List.append_nil]
  | cons m rest ih =>
    obtain ⟨es, p', later, hm, hrest, rfl⟩ := Phase.plays_cons.mp h
    rw [← List.append_assoc]
    exact ih (c.play hm) hrest

/-- The courses are what can be played. -/
theorem iff_plays :
    Course phrase log p ↔ ∃ moves body,
      Phase.starting.plays phrase moves = some (body, p) ∧ log = .called .start :: body := by
  constructor
  · intro c
    induction c with
    | start => exact ⟨[], [], rfl, rfl⟩
    | step c h ih =>
      obtain ⟨moves, body, hplays, rfl⟩ := ih
      obtain ⟨m, hm⟩ := h.exists_play
      exact ⟨moves ++ [m], _, Phase.plays_snoc hplays hm, List.cons_append ..⟩
  · rintro ⟨moves, body, hplays, rfl⟩
    exact start.plays hplays

/-- A query that was started stays the query of the course. -/
theorem query?_play {m : Move} (c : Course phrase log p) (h : p.play phrase m = some (later, q)) :
    ∀ id ∈ p.query?, id ∈ q.query? := by
  rcases Phase.step_of_play h with hstep | ⟨_, rfl⟩
  · exact c.query?_step hstep
  · exact fun _ hx => hx

theorem query?_plays {moves : List Move} (c : Course phrase log p)
    (h : p.plays phrase moves = some (later, q)) : ∀ id ∈ p.query?, id ∈ q.query? := by
  induction moves generalizing log later p with
  | nil => cases h; exact fun _ hx => hx
  | cons m rest ih =>
    obtain ⟨es, p', later, hm, hrest, rfl⟩ := Phase.plays_cons.mp h
    exact fun x hx => ih (c.play hm) hrest x (c.query?_play hm x hx)

end Course

/-! ## The core of a session -/

/-- A view without the fields that notes are made in. -/
def View.core (v : View) : View :=
  { v with lastProcessed := none, collectionFinished := false, lastError := none }

namespace Running

/-- A session without its outstanding calls and the notes in its view. -/
def core (s : Running) : Running := { s with tasks := [], view := s.view.core }

/-- The core of what comes of an input, with the tasks that were started. -/
def coreOf (outcome : Running × List Task) : Running × List Task :=
  (outcome.1.core, outcome.2)

variable {s t : Running}

@[simp] theorem query_core (s : Running) : s.core.query = s.query := rfl
@[simp] theorem pager_core (s : Running) : s.core.pager = s.pager := rfl
@[simp] theorem lifecycle_core (s : Running) : s.core.lifecycle = s.lifecycle := rfl

theorem requestPage_core (s : Running) : coreOf s.core.requestPage = coreOf s.requestPage := by
  unfold requestPage
  rw [pager_core]
  cases s.pager.beginFetch with
  | ok r => rfl
  | error refusal => rfl

theorem startFlag_core (s : Running) (index : Nat) :
    coreOf (s.core.startFlag index) = coreOf (s.startFlag index) := by
  unfold startFlag
  rw [pager_core]
  cases s.pager.mark index with
  | some r => rfl
  | none => rfl

/-- A function of sessions depends on the core if it gives the same for a session and its core. -/
theorem coreOf_congr {f : Running → Running × List Task}
    (hf : ∀ s : Running, coreOf (f s.core) = coreOf (f s)) (h : s.core = t.core) :
    coreOf (f s) = coreOf (f t) := by
  rw [← hf s, ← hf t, h]

theorem startFlags_congr (indices : List Nat) (h : s.core = t.core) :
    coreOf (s.startFlags indices) = coreOf (t.startFlags indices) := by
  induction indices generalizing s t with
  | nil => exact congrArg (·, []) h
  | cons index rest ih =>
    have hfirst := coreOf_congr (f := (startFlag · index)) (startFlag_core · index) h
    obtain ⟨hcore, hstarted⟩ := Prod.mk.inj hfirst
    obtain ⟨hcore', hmore⟩ := Prod.mk.inj (ih hcore)
    exact congrArg₂ Prod.mk hcore' (congrArg₂ (· ++ ·) hstarted hmore)

theorem onTrigger_core (s : Running) (trigger : Trigger) :
    coreOf (s.core.onTrigger trigger) = coreOf (s.onTrigger trigger) := by
  unfold onTrigger
  rw [lifecycle_core]
  rcases s.lifecycle.apply trigger with ⟨l, action⟩
  rcases action with _ | _ | _ | _
  · rfl
  · rfl
  · rfl
  · exact coreOf_congr requestPage_core rfl

/-- **What an input does to the core depends on the core.** -/
theorem react_core (s : Running) (i : Input) : coreOf (s.core.react i) = coreOf (s.react i) := by
  cases i with
  | notified n =>
    by_cases hq : n.query = s.query
    · have hq' : n.query = s.core.query := hq
      rw [react, react, if_pos hq, if_pos hq']
      cases n.news with
      | stage stage => exact s.onTrigger_core _
      | imageProcessed _ | collectionFinished | failure _ => rfl
    · have hq' : n.query ≠ s.core.query := hq
      rw [react, react, if_neg hq, if_neg hq']
      rfl
  | channelClosed => rfl
  | deadlinePassed => exact s.onTrigger_core _
  | command c =>
    cases c with
    | loadMore => exact coreOf_congr requestPage_core rfl
    | mark index => exact coreOf_congr (f := (startFlag · index)) (startFlag_core · index) rfl
    | markTailDistractors => exact startFlags_congr _ rfl
  | answered a =>
    cases a with
    | trained result | ranked result | fetched _ result | flagged _ result | refreshed _ result =>
      cases result <;> rfl

theorem step_core (s : Running) (i : Input) : coreOf (s.core.step i) = coreOf (s.step i) := by
  obtain ⟨hcore, hstarted⟩ := Prod.mk.inj (s.react_core i)
  have hpublish (t : Running) : t.publish.core = t.core.publish.core := rfl
  have hview : (s.core.react i).1.publish.core = (s.react i).1.publish.core := by
    rw [hpublish, hcore, ← hpublish]
  exact congrArg₂ Prod.mk hview hstarted

/-- Publishing again changes nothing. -/
theorem publish_step (s : Running) (i : Input) : (s.step i).1.publish = (s.step i).1 := by
  simp [publish]

/-- An inert input leaves the core as it was. -/
theorem step_of_isInert {i : Input} (hpublished : s.publish = s) (hi : i.isInert s.query = true) :
    (s.step i).1.core = s.core ∧ (s.step i).2 = [] := by
  have hcore : s.publish.core = s.core := by rw [hpublished]
  cases i with
  | notified n =>
    by_cases hq : n.query = s.query
    · rw [step_fst, step_snd, react, if_pos hq]
      rw [Input.isInert, if_pos hq] at hi
      cases hn : n.news with
      | stage stage => rw [hn] at hi; cases hi
      | imageProcessed _ | collectionFinished | failure _ => exact ⟨hcore, rfl⟩
    · rw [step_fst, step_snd, react, if_neg hq]
      exact ⟨hcore, rfl⟩
  | channelClosed | deadlinePassed | command _ => cases hi
  | answered a =>
    cases a with
    | trained result | ranked result => cases result <;> exact ⟨hcore, rfl⟩
    | fetched _ _ | flagged _ _ | refreshed _ _ => cases hi

end Running

theorem Run.publish_eq {route : Query.Route} {history : List Event} {s : Running}
    (r : Run route history s) : s.publish = s := by
  cases r with
  | refl => rfl
  | step i _ _ => exact Running.publish_step _ i

/-! ## Views that repeat the one before -/

/-- Views without those that repeat the one before. -/
def distinct (vs : List View) : List View := vs.destutter (· ≠ ·)

theorem distinct_repeat (v : View) (vs : List View) :
    distinct (v :: v :: vs) = distinct (v :: vs) := by
  unfold distinct
  rw [List.destutter_cons_cons, if_neg (not_not_intro rfl), List.destutter_cons']

theorem distinct_cons_of_ne {v w : View} (h : v ≠ w) (vs : List View) :
    distinct (v :: w :: vs) = v :: distinct (w :: vs) := by
  unfold distinct
  rw [List.destutter_cons_cons, if_pos h, List.destutter_cons']

theorem distinct_distinct (vs : List View) : distinct (distinct vs) = distinct vs :=
  List.destutter_idem _ _

/-- The first view stays the first. -/
theorem exists_distinct_cons (v : View) (vs : List View) :
    ∃ rest, distinct (v :: vs) = v :: rest := by
  induction vs with
  | nil => exact ⟨[], rfl⟩
  | cons w vs ih =>
    by_cases h : v = w
    · subst h
      rwa [distinct_repeat]
    · exact ⟨_, distinct_cons_of_ne h vs⟩

theorem distinct_cons_distinct (v : View) (vs : List View) :
    distinct (v :: distinct vs) = distinct (v :: vs) := by
  cases vs with
  | nil => rfl
  | cons w vs =>
    obtain ⟨rest, hrest⟩ := exists_distinct_cons w vs
    have hidem : distinct (w :: rest) = w :: rest := by rw [← hrest, distinct_distinct]
    rw [hrest]
    by_cases h : v = w
    · subst h
      rw [distinct_repeat, distinct_repeat, hidem, hrest]
    · rw [distinct_cons_of_ne h, distinct_cons_of_ne h, hidem, hrest]

theorem distinct_append_congr (before : List View) {vs ws : List View}
    (h : distinct vs = distinct ws) : distinct (before ++ vs) = distinct (before ++ ws) := by
  induction before with
  | nil => exact h
  | cons v rest ih =>
    rw [List.cons_append, List.cons_append, ← distinct_cons_distinct, ih, distinct_cons_distinct]

/-! ## Two courses side by side -/

/-- Two sessions that have the same core, the same calls to make and the same user. The second has
not taken in the answers to some calls. -/
structure Live.Agrees (unheard : List Task) (l l' : Live) : Prop where
  core : l'.session.core = l.session.core
  unmade : l'.unmade = l.unmade
  made : l'.made ~ l.made ++ unheard
  queue : l'.queue = l.queue
  left : l'.left = l.left

/-- The phases of two courses, where some answers were taken in by the first alone. When a session
ends its outstanding calls are dropped, so that none is missing any more. -/
inductive Phase.Agrees (unheard : List Task) : Phase → Phase → Prop
  | live {l l' : Live} (h : l.Agrees unheard l') : Agrees unheard (.live l) (.live l')
  | same {p : Phase} (h : unheard = [] ∨ p.ended = true) : Agrees unheard p p

/-- The views of a log, without the fields that notes are made in. -/
def cores (log : List Happening) : List View := (views log).map View.core

@[simp] theorem cores_append (xs ys : List Happening) :
    cores (xs ++ ys) = cores xs ++ cores ys := by
  simp [cores]

/-- The view that a running session shows, without the notes. -/
def Phase.shown : Phase → List View
  | .live l => [l.session.view.core]
  | _ => []

namespace Live.Agrees

variable {unheard : List Task} {l l' : Live}

theorem view_eq (h : l.Agrees unheard l') : l'.session.view.core = l.session.view.core := by
  show l'.session.core.view = l.session.core.view
  rw [h.core]

theorem query_eq (h : l.Agrees unheard l') : l'.session.query = l.session.query := by
  rw [← Running.query_core, h.core, Running.query_core]

theorem lifecycle_eq (h : l.Agrees unheard l') : l'.session.lifecycle = l.session.lifecycle := by
  rw [← Running.lifecycle_core, h.core, Running.lifecycle_core]

/-- What can be taken in by the first session can be taken in by the second. -/
theorem offers (h : l.Agrees unheard l') {i : Input} (hi : l.Offers i) : l'.Offers i := by
  cases i with
  | answered a => exact h.made.mem_iff.mpr (List.mem_append_left _ hi)
  | command c =>
    show l'.queue.head? = some c
    rw [h.queue]
    exact hi
  | deadlinePassed =>
    show l'.session.lifecycle.timerArmed = true
    rw [h.lifecycle_eq]
    exact hi
  | notified _ | channelClosed => trivial

theorem step_eq (h : l.Agrees unheard l') (i : Input) :
    (l'.session.step i).1.core = (l.session.step i).1.core ∧
      (l'.session.step i).2 = (l.session.step i).2 :=
  Prod.mk.inj (Running.coreOf_congr (f := (Running.step · i)) (Running.step_core · i) h.core)

theorem take (h : l.Agrees unheard l') {i : Input} (hi : l.Offers i) :
    (l.take i).Agrees unheard (l'.take i) where
  core := (h.step_eq i).1
  unmade := by
    show l'.unmade ++ (l'.session.step i).2 = l.unmade ++ (l.session.step i).2
    rw [h.unmade, (h.step_eq i).2]
  made := by
    cases i with
    | answered a =>
      have herase := h.made.erase a.task
      rwa [List.erase_append_left _ (show a.task ∈ l.made from hi)] at herase
    | notified _ | channelClosed | deadlinePassed | command _ => exact h.made
  queue := by
    show i.command?.elim l'.queue (fun _ => l'.queue.tail) = _
    rw [h.queue]
    rfl
  left := h.left

theorem call (h : l.Agrees unheard l') (task : Task) :
    (l.call task).Agrees unheard (l'.call task) where
  core := h.core
  unmade := by
    show l'.unmade.erase task = l.unmade.erase task
    rw [h.unmade]
  made := by
    show l'.made ++ [task] ~ l.made ++ [task] ++ unheard
    refine (h.made.append_right _).trans ?_
    rw [List.append_assoc, List.append_assoc]
    exact List.perm_append_comm.append_left _
  queue := h.queue
  left := h.left

/-- An input that the second session does not get, and whose answer is missing there. -/
theorem skip (h : l.Agrees unheard l') {i : Input} (hpublished : l.session.publish = l.session)
    (hi : l.Offers i) (hinert : i.isInert l.session.query = true) :
    (l.take i).Agrees (unheard ++ (i.answer?.map Answer.task).toList) l' where
  core := h.core.trans (Running.step_of_isInert hpublished hinert).1.symm
  unmade := by
    show l'.unmade = l.unmade ++ (l.session.step i).2
    rw [(Running.step_of_isInert hpublished hinert).2, h.unmade, List.append_nil]
  made := by
    cases i with
    | answered a =>
      have herase := (List.perm_cons_erase (show a.task ∈ l.made from hi)).append_right unheard
      refine h.made.trans (herase.trans ?_)
      show _ ~ l.made.erase a.task ++ (unheard ++ [a.task])
      rw [← List.append_assoc]
      exact (List.perm_append_singleton a.task _).symm
    | notified n =>
      rw [show (Input.notified n).answer? = none from rfl, Option.map_none, Option.toList_none,
        List.append_nil]
      exact h.made
    | channelClosed | deadlinePassed | command _ => cases hinert
  queue := by
    cases i with
    | command _ => cases hinert
    | notified _ | channelClosed | deadlinePassed | answered _ => exact h.queue
  left := h.left

theorem refl (l : Live) : l.Agrees [] l := ⟨rfl, rfl, by rw [List.append_nil], rfl, rfl⟩

theorem close_eq (h : l.Agrees unheard l') :
    l'.session.close.view.core = l.session.close.view.core := by
  have hclose (s : Running) : s.close.view.core = s.core.close.view.core := rfl
  rw [hclose, h.core, ← hclose]

end Live.Agrees

namespace Phase

variable {phrase : Query.Phrase} {id : Query.Id} {p p' q : Phase} {unheard : List Task} {m : Move}
  {es : List Happening}

theorem ended_of_play (hp : p.play phrase m = some (es, q)) (he : p.ended = true) :
    q.ended = true := by
  cases p with
  | finished id => cases m <;> cases hp; rfl
  | releasing id => cases m <;> cases hp; rfl
  | released id => cases m <;> cases hp
  | starting | unstarted | submitting _ | live _ => cases he

theorem play_take {l : Live} {i : Input} (hi : l.Offers i) :
    (live l).play phrase (.take i) = some (l.taking i, .live (l.take i)) := if_pos hi

/-- What can happen in the first course can happen in the second, and looks the same there. -/
theorem Agrees.play (h : p.Agrees unheard p') (hp : p.play phrase m = some (es, q)) :
    ∃ es' q', p'.play phrase m = some (es', q') ∧ q.Agrees unheard q' ∧ calls es' = calls es ∧
      cores es' = cores es := by
  cases h with
  | same h =>
    exact ⟨es, q, hp, .same (h.imp_right (ended_of_play hp)), rfl, rfl⟩
  | @live l l' h =>
    have hview (i : Input) : (l'.session.step i).1.view.core = (l.session.step i).1.view.core := by
      show (l'.session.step i).1.core.view = (l.session.step i).1.core.view
      rw [(h.step_eq i).1]
    have htaking (i : Input) : cores (l'.taking i) = cores (l.taking i) :=
      congrArg ([·]) (hview i)
    cases m with
    | event e =>
      rw [Phase.play] at hp
      cases hn : e.notification? with
      | some n =>
        rw [hn] at hp
        cases hp
        refine ⟨l'.taking (.notified n), .live (l'.take (.notified n)), ?_, .live (h.take trivial),
          rfl, htaking _⟩
        rw [Phase.play, hn]
      | none =>
        rw [hn] at hp
        cases hp
        refine ⟨[], .live l', ?_, .live h, rfl, rfl⟩
        rw [Phase.play, hn]
    | take i =>
      rw [Phase.play] at hp
      split at hp
      · rename_i hi
        cases hp
        exact ⟨_, _, play_take (h.offers hi), .live (h.take hi), rfl, htaking i⟩
      · cases hp
    | send c =>
      cases hp
      refine ⟨_, _, rfl, .live ⟨h.core, h.unmade, h.made, ?_, h.left⟩, rfl, rfl⟩
      rw [h.queue]
    | leave =>
      cases hp
      exact ⟨_, _, rfl, .live ⟨h.core, h.unmade, h.made, h.queue, rfl⟩, rfl, rfl⟩
    | call task =>
      rw [Phase.play] at hp
      split at hp
      · rename_i hm
        cases hp
        have hm' : task ∈ l'.unmade := by rwa [h.unmade]
        exact ⟨_, _, if_pos hm', .live (h.call task), by rw [h.query_eq], rfl⟩
      · cases hp
    | close =>
      rw [Phase.play] at hp
      split at hp
      · rename_i hleft
        cases hp
        have hleft' : l'.left = true ∧ l'.queue = [] := by rwa [h.left, h.queue]
        refine ⟨_, _, if_pos hleft', ?_, rfl, congrArg ([·]) h.close_eq⟩
        rw [h.query_eq]
        exact .same (Or.inr rfl)
      · cases hp
    | opened _ | submitted _ | release | released _ => cases hp

theorem Agrees.of_live {l : Live} (h : (Phase.live l).Agrees unheard p') :
    ∃ l', p' = .live l' ∧ l.Agrees unheard l' := by
  cases h with
  | live h => exact ⟨_, rfl, h⟩
  | same h =>
    rcases h with rfl | he
    · exact ⟨l, rfl, .refl l⟩
    · cases he

/-- What an inert move does to the first course shows in nothing but the notes. -/
theorem Agrees.skip {log : List Happening} (h : p.Agrees unheard p') (c : Course phrase log p)
    (hid : ∀ x ∈ p.query?, x = id) (hm : m.isInert id = true)
    (hp : p.play phrase m = some (es, q)) :
    q.Agrees (unheard ++ m.settled?.toList) p' ∧ calls es = [] ∧
      (cores es = [] ∨ cores es = p.shown) ∧ q.shown = p.shown := by
  cases p with
  | live l =>
    obtain ⟨l', rfl, hl⟩ := h.of_live
    obtain ⟨_, _, _, told⟩ := c.reads
    have hpublished := told.run.publish_eq
    have hquery : l.session.query = id := hid _ rfl
    have htake {i : Input} (hi : l.Offers i) (hinert : i.isInert id = true) :
        (l.take i).Agrees (unheard ++ (i.answer?.map Answer.task).toList) l' ∧
          (l.session.step i).1.view.core = l.session.view.core := by
      rw [← hquery] at hinert
      refine ⟨hl.skip hpublished hi hinert, ?_⟩
      show (l.session.step i).1.core.view = l.session.core.view
      rw [(Running.step_of_isInert hpublished hinert).1]
    cases m with
    | event e =>
      rw [Phase.play] at hp
      rw [Move.isInert] at hm
      cases hn : e.notification? with
      | some n =>
        rw [hn] at hp hm
        cases hp
        obtain ⟨hagrees, hview⟩ := htake (i := .notified n) trivial hm
        exact ⟨.live hagrees, rfl, Or.inr (congrArg ([·]) hview), congrArg ([·]) hview⟩
      | none =>
        rw [hn] at hp
        cases hp
        refine ⟨.live ?_, rfl, Or.inl rfl, rfl⟩
        show l.Agrees (unheard ++ []) l'
        rwa [List.append_nil]
    | take i =>
      rw [Phase.play] at hp
      split at hp
      · rename_i hi
        cases hp
        obtain ⟨hagrees, hview⟩ := htake hi hm
        refine ⟨?_, rfl, Or.inr (congrArg ([·]) hview), congrArg ([·]) hview⟩
        cases i with
        | notified _ | channelClosed | deadlinePassed | command _ | answered _ =>
          exact .live hagrees
      · cases hp
    | opened _ | submitted _ | send _ | leave | call _ | close | release | released _ => cases hm
  | starting | unstarted | submitting _ | finished _ | releasing _ | released _ =>
    cases m with
    | event _ | take _ => cases hp
    | opened _ | submitted _ | send _ | leave | call _ | close | release | released _ => cases hm

theorem Agrees.shown_eq (h : p.Agrees unheard p') : p'.shown = p.shown := by
  cases h with
  | live h => exact congrArg ([·]) h.view_eq
  | same _ => rfl

theorem distinct_shown_twice (p : Phase) (vs : List View) :
    distinct (p.shown ++ p.shown ++ vs) = distinct (p.shown ++ vs) := by
  cases p with
  | live l => exact distinct_repeat _ vs
  | starting | unstarted | submitting _ | finished _ | releasing _ | released _ => rfl

/-- The view that is shown after a move is the last one of those that were shown. -/
theorem shown_of_play (hp : p.play phrase m = some (es, q)) :
    ∃ before, p.shown ++ cores es = before ++ q.shown := by
  rcases step_of_play hp with hstep | ⟨rfl, rfl⟩
  · cases hstep with
    | take i hi => exact ⟨_, rfl⟩
    | accepted id => exact ⟨[], rfl⟩
    | send | leave | call => exact ⟨[], rfl⟩
    | unstarted | started | refused | close | release | released =>
      exact ⟨_, (List.append_nil _).symm⟩
  · exact ⟨[], List.append_nil _⟩

/-- **Inert moves leave no trace.** Whoever plays on without them makes the same calls, shows the
same views apart from notes and repetitions, and gets to a phase that agrees. -/
theorem Agrees.plays {moves kept : List Move} {more : List Task} {before log : List Happening}
    (hs : Spared id moves kept more) (h : p.Agrees unheard p') (c : Course phrase before p)
    (hid : ∀ x ∈ q.query?, x = id) (hp : p.plays phrase moves = some (log, q)) :
    ∃ log' q', p'.plays phrase kept = some (log', q') ∧ q.Agrees (unheard ++ more) q' ∧
      calls log' = calls log ∧
      distinct (p'.shown ++ cores log') = distinct (p.shown ++ cores log) := by
  induction hs generalizing p p' unheard before log with
  | nil =>
    cases hp
    rw [List.append_nil]
    exact ⟨[], p', rfl, h, rfl, by rw [h.shown_eq]⟩
  | @keep m moves kept more _ ih =>
    obtain ⟨es, r, later, hm, hrest, rfl⟩ := plays_cons.mp hp
    obtain ⟨es', r', hm', hagrees, hcalls, hcores⟩ := h.play hm
    obtain ⟨later', q', hrest', hq, hcalls', hdistinct⟩ := ih hagrees (c.play hm) hrest
    refine ⟨es' ++ later', q', plays_cons.mpr ⟨es', r', later', hm', hrest', rfl⟩, hq, ?_, ?_⟩
    · rw [calls_append, calls_append, hcalls, hcalls']
    · obtain ⟨first, hfirst⟩ := shown_of_play hm
      have hfirst' : p'.shown ++ cores es' = first ++ r'.shown := by
        rw [h.shown_eq, hcores, hfirst, hagrees.shown_eq]
      rw [cores_append, cores_append, ← List.append_assoc, ← List.append_assoc, hfirst, hfirst',
        List.append_assoc, List.append_assoc]
      exact distinct_append_congr first hdistinct
  | @drop m moves kept more hinert _ ih =>
    obtain ⟨es, r, later, hm, hrest, rfl⟩ := plays_cons.mp hp
    have hp_id : ∀ x ∈ p.query?, x = id := fun x hx => hid x (c.query?_plays hp x hx)
    obtain ⟨hagrees, hcalls, hcores, hshown⟩ := h.skip c hp_id hinert hm
    obtain ⟨later', q', hrest', hq, hcalls', hdistinct⟩ := ih hagrees (c.play hm) hrest
    refine ⟨later', q', hrest', ?_, ?_, ?_⟩
    · rwa [← List.append_assoc]
    · rw [calls_append, hcalls, List.nil_append, hcalls']
    · rw [hdistinct, hshown, cores_append, ← List.append_assoc]
      rcases hcores with hnone | hsame
      · rw [hnone, List.append_nil]
      · rw [hsame, p.distinct_shown_twice]

end Phase

/-- **Inert inputs do not influence a session.** Delete any inert moves from a course: events that
carry no notification, news of other queries, what the query reports apart from its stage, and the
answers of the training and ranking calls. What is left is a course with the same calls in the same
order. It shows the same views, apart from repetitions and the three fields of a view in which inert
moves are noted, and its session is the same but for these fields and the deleted answers, whose
calls are still outstanding. -/
theorem Course.inert_leaves_no_trace {phrase : Query.Phrase} {id : Query.Id}
    {moves kept : List Move} {unheard : List Task} {log : List Happening} {p : Phase}
    (hs : Spared id moves kept unheard)
    (hp : Phase.starting.plays phrase moves = some (log, p)) (hid : ∀ x ∈ p.query?, x = id) :
    ∃ log' p', Phase.starting.plays phrase kept = some (log', p') ∧
      calls log' = calls log ∧ distinct (cores log') = distinct (cores log) ∧
      p.Agrees unheard p' ∧
      (∀ l l', p = .live l → p' = .live l' → l'.session.tasks ~ l.session.tasks ++ unheard) ∧
      ∀ task ∈ unheard, task = .train ∨ task = .rank := by
  obtain ⟨log', p', hp', hagrees, hcalls, hdistinct⟩ :=
    Phase.Agrees.plays hs (.same (Or.inl rfl)) .start hid hp
  refine ⟨log', p', hp', hcalls, hdistinct, hagrees, ?_, hs.called⟩
  rintro l l' rfl rfl
  obtain ⟨_, _, _, told⟩ := (Course.start.plays hp).reads
  obtain ⟨_, _, _, told'⟩ := (Course.start.plays hp').reads
  obtain ⟨_, hl', h⟩ := hagrees.of_live
  cases hl'
  have hmade := h.made.append_left l.unmade
  rw [← List.append_assoc] at hmade
  refine told'.tasks.trans ?_
  rw [h.unmade]
  exact hmade.trans (told.tasks.symm.append_right _)

/-- An event of the stream of notifications. -/
def notice (data : String) : Move := .event ⟨Notification.eventName, data⟩

/-- A query that is trained and ranked, with noise of every kind around it. -/
def noisyMoves : List Move :=
  [.opened (.ok sampleRoute.id), .submitted (.ok ()), .event ⟨"ping", ""⟩, notice "later",
    notice "\x7b\"id\":\"q-8\",\"type\":\"NTFY_STATE_CHANGE\",\"data\":\"QS_RANKED\"\x7d",
    notice "\x7b\"id\":\"q-7\",\"type\":\"NTFY_IMAGE_PROCESSED\",\"data\":\"a.jpg\"\x7d",
    notice "\x7b\"id\":\"q-7\",\"type\":\"NTFY_STATE_CHANGE\",\"data\":\"QS_TRAINED\"\x7d",
    .call .rank, .take (.answered (.ranked (.error .transport))),
    notice "\x7b\"id\":\"q-7\",\"type\":\"NTFY_STATE_CHANGE\",\"data\":\"QS_RANKED\"\x7d",
    .call (.fetch 1)]

/-- The same without the noise. -/
def quietMoves : List Move :=
  [.opened (.ok sampleRoute.id), .submitted (.ok ()),
    notice "\x7b\"id\":\"q-7\",\"type\":\"NTFY_STATE_CHANGE\",\"data\":\"QS_TRAINED\"\x7d",
    .call .rank,
    notice "\x7b\"id\":\"q-7\",\"type\":\"NTFY_STATE_CHANGE\",\"data\":\"QS_RANKED\"\x7d",
    .call (.fetch 1)]

theorem noisyMoves_spared : Spared sampleRoute.id noisyMoves quietMoves [.rank] := by
  refine .keep _ (.keep _ (.drop (by decide +kernel) (.drop (by decide +kernel)
    (.drop (by decide +kernel) (.drop (by decide +kernel) (.keep _ (.keep _ ?_)))))))
  exact Spared.drop rfl (.keep _ (.keep _ .nil))

/-- The session of the noisy course and that of the quiet one end alike. -/
theorem Course.inert_leaves_no_trace_noisy :
    ∃ log p log' p', Phase.starting.plays sampleRoute.phrase noisyMoves = some (log, p) ∧
      Phase.starting.plays sampleRoute.phrase quietMoves = some (log', p') ∧
      calls log' = [.submit sampleRoute.id sampleRoute.phrase, .rank sampleRoute.id,
        .page sampleRoute.id 1] ∧
      calls log' = calls log ∧ distinct (cores log') = distinct (cores log) ∧
      p.Agrees [.rank] p' := by
  have hcalls : (Phase.starting.plays sampleRoute.phrase noisyMoves).map
      (fun played => (calls played.1, played.2.query?)) =
      some ([.submit sampleRoute.id sampleRoute.phrase, .rank sampleRoute.id,
        .page sampleRoute.id 1], some sampleRoute.id) := by decide +kernel
  obtain ⟨⟨log, p⟩, hp, heq⟩ := Option.map_eq_some_iff.mp hcalls
  obtain ⟨hlog, hquery⟩ := Prod.mk.inj heq
  obtain ⟨log', p', hp', hsame, hdistinct, hagrees, _⟩ :=
    Course.inert_leaves_no_trace noisyMoves_spared hp (by rw [hquery]; simp)
  exact ⟨log, p, log', p', hp, hp', hsame.trans hlog, hsame, hdistinct, hagrees⟩

end RankedSearch.Session
