import RankedSearch.Proofs.Session.LifecycleTrace
import RankedSearch.Session.Running

/-! # Runs of a session

A session takes its inputs one at a time, in whatever order they come: notifications and commands at
any time, the deadline only while the timer is armed, an answer only to a call that is outstanding.
A run keeps its history, each input with the tasks that it started. What one input can do is said
once, in `Running.Reacts`; the invariants of runs are proved from its cases. -/
namespace RankedSearch.Session

/-! ## Histories -/

/-- The call that an action makes apart from the fetching of pages. -/
def Action.call? : Action → Option Task
  | .beginTraining => some .train
  | .beginRanking => some .rank
  | .fetchFirstPage => none

def Input.answer? : Input → Option Answer
  | .answered a => some a
  | _ => none

/-- An input that was taken in, and the tasks that it started. -/
structure Event where
  input : Input
  started : List Task

namespace Running

/-- Whether an input can come in. -/
def Accepts (s : Running) : Input → Prop
  | .deadlinePassed => s.lifecycle.timerArmed = true
  | .answered a => a.task ∈ s.tasks
  | _ => True

/-- What an input tells the lifecycle. -/
def trigger? (s : Running) : Input → Option Trigger
  | .notified n =>
    if n.query = s.query then
      match n.news with
      | .stage stage => some (.stageReported stage)
      | _ => none
    else none
  | .deadlinePassed => some .deadlinePassed
  | _ => none

/-- The places in the list that a command asks to mark. -/
def marked (s : Running) : Command → List Nat
  | .loadMore => []
  | .mark index => [index]
  | .markTailDistractors => s.pager.tailDistractors

end Running

/-- The runs that start from a session as it is, with what happens in them. -/
inductive Running.Runs (s : Running) : List Event → Running → Prop
  | refl : s.Runs [] s
  | step {history : List Event} {t : Running} (i : Input) (r : s.Runs history t)
      (h : t.Accepts i) : s.Runs (history ++ [⟨i, (t.step i).2⟩]) (t.step i).1

/-- The runs of the session of a query, with their histories. -/
abbrev Run (route : Query.Route) (history : List Event) (s : Running) : Prop :=
  (Running.init route).Runs history s

theorem Running.Runs.append {s t u : Running} {first second : List Event} (r : s.Runs first t)
    (r' : t.Runs second u) : s.Runs (first ++ second) u := by
  induction r' with
  | refl => rwa [List.append_nil]
  | step i _ h ih => rw [← List.append_assoc]; exact ih.step i h

/-! ## Publishing touches the view alone -/

namespace Running

variable (s : Running)

@[simp] theorem publish_lifecycle : s.publish.lifecycle = s.lifecycle := rfl
@[simp] theorem publish_pager : s.publish.pager = s.pager := rfl
@[simp] theorem publish_pending : s.publish.pending = s.pending := rfl
@[simp] theorem publish_tasks : s.publish.tasks = s.tasks := rfl

@[simp] theorem step_fst (i : Input) : (s.step i).1 = (s.react i).1.publish := rfl
@[simp] theorem step_snd (i : Input) : (s.step i).2 = (s.react i).2 := rfl

/-! ## What an input does -/

variable {s}

/-- The patch that marking an item leaves behind. -/
def patchOf (index : Nat) (item : Item) : Patch := ⟨index, item.path, item.falseNegative⟩

/-- The session after a mark has been set and sent off. -/
def flagging (s : Running) (index : Nat) (item : Item) : Running :=
  { s with
    pager := s.pager.setMark index true
    pending := s.pending + 1
    tasks := s.tasks ++ [.flag (patchOf index item)] }

/-- Everything that an input can do before the session publishes, except for what only the view
shows. -/
inductive Reacts (s : Running) : Input → Running → List Task → Prop
  /-- Nothing but the view changes. -/
  | shown {i : Input} (v : View) (hi : i.answer? = none) (ht : s.trigger? i = none) :
      s.Reacts i { s with view := v } []
  /-- The lifecycle asks for nothing, or for a page while none can be fetched. -/
  | heard {i : Input} {t : Trigger} (v : View) (hi : i.answer? = none) (ht : s.trigger? i = some t)
      (h : (s.lifecycle.apply t).2 = none ∨
        (s.lifecycle.apply t).2 = some .fetchFirstPage ∧ s.pager.nextPage = none) :
      s.Reacts i { s with lifecycle := (s.lifecycle.apply t).1, view := v } []
  /-- Training or ranking is asked for. -/
  | call {i : Input} {t : Trigger} {a : Action} {task : Task} (v : View) (hi : i.answer? = none)
      (ht : s.trigger? i = some t) (h : (s.lifecycle.apply t).2 = some a)
      (hc : a.call? = some task) :
      s.Reacts i
        { s with lifecycle := (s.lifecycle.apply t).1, view := v, tasks := s.tasks ++ [task] }
        [task]
  /-- The first page is asked for by the lifecycle, the others by commands. -/
  | fetch {i : Input} {l : Lifecycle} {page : UInt32} (v : View) (hi : i.answer? = none)
      (hl : (∃ t, s.trigger? i = some t ∧ s.lifecycle.apply t = (l, some .fetchFirstPage)) ∨
        i = .command .loadMore ∧ l = s.lifecycle)
      (hp : s.pager.nextPage = some page) :
      s.Reacts i
        { s with
          lifecycle := l
          view := v
          pager := { s.pager with loading := true }
          tasks := s.tasks ++ [.fetch page] }
        [.fetch page]
  | flags {c : Command} (v : View) (hc : c ≠ .loadMore) :
      s.Reacts (.command c) ({ s with view := v }.startFlags (s.marked c)).1
        ({ s with view := v }.startFlags (s.marked c)).2
  /-- Training or ranking was answered. -/
  | called {a : Answer} (v : View) (ha : a.task = .train ∨ a.task = .rank) :
      s.Reacts (.answered a) { s with view := v, tasks := s.tasks.erase a.task } []
  | loaded (requested : UInt32) (page : Page) :
      s.Reacts (.answered (.fetched requested (.ok page)))
        { s with
          pager := s.pager.completeFetch requested page
          tasks := s.tasks.erase (.fetch requested) }
        []
  | missed (requested : UInt32) (fault : Service.Fault) (v : View) :
      s.Reacts (.answered (.fetched requested (.error fault)))
        { s with
          view := v
          pager := s.pager.abortFetch
          tasks := s.tasks.erase (.fetch requested) }
        []
  | accepted (patch : Patch) (u : Unit) :
      s.Reacts (.answered (.flagged patch (.ok u)))
        { s with tasks := s.tasks.erase (.flag patch) ++ [.refresh patch] } [.refresh patch]
  | refused (patch : Patch) (fault : Service.Fault) (v : View) :
      s.Reacts (.answered (.flagged patch (.error fault)))
        { s with
          view := v
          pager := s.pager.revert patch
          pending := s.pending - 1
          tasks := s.tasks.erase (.flag patch) }
        []
  | confirmed (patch : Patch) (result : Except Service.Fault Page) (precision : Option Precision) :
      s.Reacts (.answered (.refreshed patch result))
        { s with
          pager := s.pager.settle patch (.confirmed precision)
          pending := s.pending - 1
          tasks := s.tasks.erase (.refresh patch) }
        []

/-- A page is requested as `Reacts` says it: the next one, unless there is none. -/
theorem requestPage_cases (s : Running) :
    s.pager.nextPage = none ∧ s.requestPage = (s, []) ∨
      ∃ page, s.pager.nextPage = some page ∧
        s.requestPage = ({ s with
          pager := { s.pager with loading := true }, tasks := s.tasks ++ [.fetch page] },
          [.fetch page]) := by
  unfold requestPage
  cases hb : s.pager.beginFetch with
  | ok r =>
    obtain ⟨page, pager⟩ := r
    obtain ⟨_, hp, rfl⟩ := Pager.beginFetch_eq_ok hb
    exact Or.inr ⟨page, hp, rfl⟩
  | error e =>
    refine Or.inl ⟨?_, rfl⟩
    unfold Pager.beginFetch at hb
    split at hb
    · rename_i hl; simp [Pager.nextPage, hl]
    · split at hb
      · cases hb
      · assumption

theorem onTrigger_reacts {i : Input} {t : Trigger} (s : Running) (hi : i.answer? = none)
    (ht : s.trigger? i = some t) : s.Reacts i (s.onTrigger t).1 (s.onTrigger t).2 := by
  unfold onTrigger
  rcases ha : s.lifecycle.apply t with ⟨l, action⟩
  have hl : l = (s.lifecycle.apply t).1 := by rw [ha]
  have hact : (s.lifecycle.apply t).2 = action := by rw [ha]
  cases action with
  | none => exact hl ▸ .heard _ hi ht (Or.inl hact)
  | some action =>
    cases action with
    | beginTraining | beginRanking => exact hl ▸ .call _ hi ht hact rfl
    | fetchFirstPage =>
      dsimp only
      rcases requestPage_cases { s with lifecycle := l, view := { s.view with stage := l.stage } }
        with ⟨hn, h⟩ | ⟨page, hp, h⟩ <;> rw [h]
      · exact hl ▸ .heard _ hi ht (Or.inr ⟨hact, hn⟩)
      · exact .fetch _ hi (Or.inl ⟨t, ht, ha⟩) hp

theorem onNews_reacts {n : Notification} (s : Running) (hq : n.query = s.query) :
    s.Reacts (.notified n) (s.onNews n.news).1 (s.onNews n.news).2 := by
  cases hn : n.news with
  | stage stage => exact s.onTrigger_reacts rfl (by simp [trigger?, hq, hn])
  | imageProcessed _ | collectionFinished | failure _ =>
    exact .shown _ rfl (by simp [trigger?, hn])

theorem onCommand_reacts (s : Running) (c : Command) :
    s.Reacts (.command c) (s.onCommand c).1 (s.onCommand c).2 := by
  cases c with
  | loadMore =>
    unfold onCommand
    dsimp only
    rcases requestPage_cases
      { s with view := { s.view with commandsHandled := s.view.commandsHandled + 1 } }
      with ⟨_, h⟩ | ⟨page, hp, h⟩ <;> rw [h]
    · exact .shown _ rfl rfl
    · exact .fetch _ rfl (Or.inr ⟨rfl, rfl⟩) hp
  | mark index =>
    have h : s.onCommand (.mark index) = Running.startFlags
        { s with view := { s.view with commandsHandled := s.view.commandsHandled + 1 } }
        [index] := by
      simp [onCommand, startFlags]
    rw [h]
    exact .flags _ (by simp)
  | markTailDistractors => exact .flags _ (by simp)

theorem onAnswer_reacts (s : Running) (a : Answer) :
    s.Reacts (.answered a) ({ s with tasks := s.tasks.erase a.task }.onAnswer a).1
      ({ s with tasks := s.tasks.erase a.task }.onAnswer a).2 := by
  cases a with
  | trained result => cases result <;> exact .called _ (Or.inl rfl)
  | ranked result => cases result <;> exact .called _ (Or.inr rfl)
  | fetched requested result =>
    cases result with
    | ok page => exact .loaded requested page
    | error fault => exact .missed requested fault _
  | flagged patch result =>
    cases result with
    | ok u => exact .accepted patch u
    | error fault => exact .refused patch fault _
  | refreshed patch result => cases result <;> exact .confirmed patch _ _

/-- **Every input does one of the things in `Reacts`.** -/
theorem reacts (s : Running) (i : Input) : s.Reacts i (s.react i).1 (s.react i).2 := by
  cases i with
  | notified n =>
    by_cases hq : n.query = s.query
    · rw [react, if_pos hq]; exact s.onNews_reacts hq
    · rw [react, if_neg hq]; exact .shown s.view rfl (by simp [trigger?, hq])
  | channelClosed => exact .shown s.view rfl rfl
  | deadlinePassed => exact s.onTrigger_reacts rfl rfl
  | command c => exact s.onCommand_reacts c
  | answered a => exact s.onAnswer_reacts a

/-- Marks are started one after the other; what holds before them and is kept by each holds after
them. -/
theorem startFlags_induction {P : Running → List Task → Prop} {s : Running} (indices : List Nat)
    (start : P s [])
    (flag : ∀ s started index item, s.pager.items[index]? = some item → P s started →
      P (s.flagging index item) (started ++ [.flag (patchOf index item)])) :
    P (s.startFlags indices).1 (s.startFlags indices).2 := by
  suffices h : ∀ s started, P s started →
      P (s.startFlags indices).1 (started ++ (s.startFlags indices).2) from h s [] start
  induction indices with
  | nil => intro s started h; simpa [startFlags] using h
  | cons index rest ih =>
    intro s started h
    unfold startFlags startFlag Pager.mark
    cases hx : s.pager.items[index]? with
    | none => simpa using ih s started h
    | some item =>
      have := ih _ _ (flag s started index item hx h)
      simpa [begin, flagging, patchOf, List.append_assoc] using this

end Running

/-- What is outstanding after an input: an answer settles its task, and started tasks come last. -/
theorem Running.Reacts.tasks_eq {s s' : Running} {i : Input} {started : List Task}
    (h : s.Reacts i s' started) :
    s'.tasks = (i.answer?.elim s.tasks fun a => s.tasks.erase a.task) ++ started := by
  cases h with
  | shown _ hi _ => simp [hi]
  | heard _ hi _ _ => simp [hi]
  | call _ hi _ _ _ => simp [hi]
  | fetch _ hi _ _ => simp [hi]
  | flags v _ =>
    refine startFlags_induction (P := fun s' started => s'.tasks = s.tasks ++ started) _ (by simp)
      ?_
    intro s' started index item _ ih
    simp [flagging, ih]
  | called | loaded | missed | accepted | refused | confirmed => simp [Input.answer?, Answer.task]

/-! ## Invariants of runs -/

/-- What every reaction keeps is kept by every run. -/
theorem Running.Runs.invariant {P : Running → Prop} {s t : Running} {history : List Event}
    (r : s.Runs history t) (start : P s)
    (react : ∀ {s i s' started}, P s → s.Accepts i → s.Reacts i s' started → P s')
    (publish : ∀ s, P s → P s.publish) : P t := by
  induction r with
  | refl => exact start
  | step i _ h ih => exact publish _ (react ih h (Running.reacts _ i))

/-! ## Runs that are given by their inputs -/

instance Running.decidableAccepts (s : Running) : (i : Input) → Decidable (s.Accepts i)
  | .deadlinePassed => inferInstanceAs (Decidable (s.lifecycle.timerArmed = true))
  | .answered a => inferInstanceAs (Decidable (a.task ∈ s.tasks))
  | .notified _ | .channelClosed | .command _ => isTrue trivial

/-- Takes a list of inputs in, if each can come in when it is due. -/
def Running.replay (s : Running) : List Input → Option (List Event × Running)
  | [] => some ([], s)
  | i :: rest =>
    if s.Accepts i then
      ((s.step i).1.replay rest).map fun (history, t) => (⟨i, (s.step i).2⟩ :: history, t)
    else none

theorem Running.Runs.of_replay {s t : Running} {inputs : List Input} {history : List Event}
    (h : s.replay inputs = some (history, t)) : s.Runs history t := by
  induction inputs generalizing s history with
  | nil => cases h; exact .refl
  | cons i rest ih =>
    unfold replay at h
    split at h
    · rename_i ha
      obtain ⟨⟨later, u⟩, hr, he⟩ := Option.map_eq_some_iff.mp h
      cases he
      exact (Runs.refl.step i ha).append (ih hr)
    · cases h

/-- A query to try runs on. -/
def sampleRoute : Query.Route := ⟨⟨"q-7"⟩, ⟨"red bicycle", by decide +kernel, by decide⟩⟩

/-- A page of one unmarked item. -/
def samplePage (number count : UInt32) (path : String) : Page :=
  { items := [{ path, score := .zero }], number, count, visited := 1, precisions := []
    distractorPrecisions := [] }

end RankedSearch.Session
