import RankedSearch.Proofs.Session.Course
import RankedSearch.Proofs.Session.Waiting
import RankedSearch.Service.Script
import RankedSearch.Session.Timeline

/-! # What a timeline does to its session

A timeline feeds its session inputs of its own choosing: what was sent, the deadline when it has
come, and the answers of the calls that it makes for the tasks. The theorems at the end say that
this is one of the courses of the session: whatever the service does and the user does with the
session, the views and the calls are those of a course, no call is forgotten, and more pages are
asked for only after a view has shown the query as ranked. What else is to be known of the course is
left open, so that a user whose doings are known can be followed, too. -/
namespace RankedSearch.Session

open RankedSearch.Service (Conclusion Request)
open scoped List

/-! ## Tasks of one step -/

/-- How many calls a list of tasks makes at most. -/
def weight (tasks : List Task) : Nat := tasks.foldr (Timeline.taskWeight · + ·) 0

theorem weight_append (xs ys : List Task) : weight (xs ++ ys) = weight xs + weight ys := by
  induction xs with
  | nil => simp [weight]
  | cons x rest ih =>
    show Timeline.taskWeight x + weight (rest ++ ys) = Timeline.taskWeight x + weight rest + _
    rw [ih, Nat.add_assoc]

theorem taskWeight_pos (t : Task) : 0 < Timeline.taskWeight t := by
  cases t <;> simp [Timeline.taskWeight]

/-- What follows an answer makes fewer calls than what was answered. -/
theorem Running.Reacts.weight_lt {s s' : Running} {a : Answer} {started : List Task}
    (h : s.Reacts (.answered a) s' started) : weight started < Timeline.taskWeight a.task := by
  cases h with
  | accepted => exact Nat.lt_succ_self _
  | called | loaded | missed | refused | confirmed => exact taskWeight_pos _
  | shown _ hi _ | heard _ hi _ _ | call _ hi _ _ _ | fetch _ hi _ _ => cases hi

/-! ## Records of calls -/

/-- What a service keeps of the calls that it receives: each call adds its note. -/
structure Record (σ α : Type) [QueryService σ] where
  seen : σ → List α
  note : Request → List α
  seen_receive : ∀ service r,
    seen (QueryService.receive service r).service = seen service ++ note r
  seen_conclude : ∀ service service' r,
    seen ((QueryService.receive service r).conclude service').1 = seen service'

/-- A record that keeps nothing. -/
def Record.blank (σ : Type) [QueryService σ] : Record σ Empty where
  seen _ := []
  note _ := []
  seen_receive _ _ := rfl
  seen_conclude _ _ _ := rfl

/-- A call that concludes as soon as it is received adds its note. -/
theorem Record.seen_call {σ α : Type} [QueryService σ] (record : Record σ α) {service service' : σ}
    {r : Request} {conclusion : Conclusion (Except Service.Fault r.Reply)}
    (h : (QueryService.receive service r).conclude (QueryService.receive service r).service =
      (service', conclusion)) :
    record.seen service' = record.seen service ++ record.note r := by
  have hconcluded := record.seen_conclude service (QueryService.receive service r).service r
  rw [h] at hconcluded
  exact hconcluded.trans (record.seen_receive service r)

/-- A release that was set off is called for when everybody else waits. -/
theorem Record.seen_settle {σ α : Type} [QueryService σ] (record : Record σ α)
    {left : Timeline.Stillborn σ} {id : Query.Id} (h : left.spawned = some id) :
    record.seen left.settle = record.seen left.service ++ record.note (.release id) := by
  unfold Timeline.Stillborn.settle
  rw [h]
  dsimp only
  split
  · exact (record.seen_conclude _ _ _).trans (record.seen_receive _ _)
  · exact record.seen_receive _ _

/-! ## What is known of a course -/

/-- What is known of a course that is followed, and stays so while its session goes on by itself. -/
structure Along (phrase : Query.Phrase) where
  Holds : List Happening → Phase → Prop
  step : ∀ {log es : List Happening} {p q : Phase},
    Holds log p → p.Step phrase es q → Unprompted es → Holds (log ++ es) q

/-- A course that goes on from a past, and on which more pages are asked for only after a view has
shown the query as ranked. The view that the user looks at may be out of date by the time the
command is sent. -/
def Along.since (phrase : Query.Phrase) (past : List Happening) : Along phrase where
  Holds log _ := past <+: log ∧ Gated log
  step h _ hes := ⟨h.1.trans (List.prefix_append ..), h.2.append (hes.2 _)⟩

namespace Timeline

variable {σ : Type}

/-- A call that answers for a task, if it returns. -/
def AnswersFor (finish : σ → σ × Conclusion Answer) (task : Task) : Prop :=
  ∀ service answer, (finish service).2 = .returned answer → answer.task = task

/-- What a task's call returns is an answer to the task. -/
theorem answersFor_answerOf (id : Query.Id) (task : Task)
    (conclude : σ → σ × Conclusion (Except Service.Fault (task.request id).Reply)) :
    AnswersFor (fun service => ((conclude service).1, answerOf id task (conclude service).2))
      task := by
  intro service answer h
  dsimp only at h
  cases hc : (conclude service).2 with
  | returned result =>
    rw [hc] at h
    cases h
    exact task.task_answer id result
  | crashed => rw [hc] at h; cases h

/-- What a task's call brings on at once makes fewer calls than the task. -/
theorem weight_conclude {t : Timeline σ} {task : Task} {finish : σ → σ × Conclusion Answer}
    (hf : AnswersFor finish task) : weight (t.conclude finish).2 < taskWeight task := by
  unfold conclude
  split
  · rename_i s hs
    cases hc : (finish t.service).2 with
    | returned answer =>
      obtain rfl := hf _ _ hc
      simp only [hc, feed, hs]
      exact (s.reacts (.answered answer)).weight_lt
    | crashed => simp only [hc]; exact taskWeight_pos task
  · exact taskWeight_pos task

variable [QueryService σ] {α : Type}

theorem weight_launch (t : Timeline σ) (task : Task) :
    weight (t.launch task).2 < taskWeight task := by
  unfold launch
  split
  · dsimp only
    split
    · exact weight_conclude (answersFor_answerOf _ task _)
    · exact taskWeight_pos task
  · exact taskWeight_pos task

/-! ## Timelines and courses -/

/-- A call of a task that was received: it answers for the task, and is not received again. -/
structure Serves (record : Record σ α) (finish : σ → σ × Conclusion Answer) (task : Task) :
    Prop where
  answers : AnswersFor finish task
  seen : ∀ service, record.seen (finish service).1 = record.seen service

/-- A timeline in the middle of an instant, and a course that it follows, of which more is known.
There are commands off its queue that the session has still to take in, tasks whose calls have still
to be made, and tasks whose calls are due; all other calls are waiting. -/
structure Follows (record : Record σ α) (origin : σ) {phrase : Query.Phrase} (along : Along phrase)
    (t : Timeline σ) (commands : List Command) (unmade due : List Task)
    (waiting : List (Call σ Answer × Task)) (log : List Happening) (p : Phase) : Prop where
  course : Course phrase log p
  known : along.Holds log p
  queue : t.queue = []
  calls : t.calls = waiting.map Prod.fst
  serves : ∀ w ∈ waiting, Serves record w.1.finish w.2
  release : ∀ c, t.release = some c →
    ∀ service, record.seen (c.finish service).1 = record.seen service
  view : (views log).getLast? = some t.view
  sent : (Session.sent log).length = t.sent
  seen : record.seen t.service = record.seen origin ++ (Session.calls log).flatMap record.note
  running : ∀ s, t.status = .running s → ∃ l, p = .live l ∧ l.session = s ∧ l.queue = commands ∧
    l.left = t.closing ∧ l.unmade ~ unmade ∧ l.made ~ waiting.map Prod.snd ++ due
  ended : t.status = .ended → ∃ id, p = .releasing id

/-- A timeline in the middle of an instant. -/
def Driven (record : Record σ α) (origin : σ) {phrase : Query.Phrase} (along : Along phrase)
    (t : Timeline σ) (commands : List Command) (unmade due : List Task) : Prop :=
  ∃ waiting log p, Follows record origin along t commands unmade due waiting log p

/-- A timeline at rest: what is in its queue is all that the session has to take in. -/
def AtRest (record : Record σ α) (origin : σ) {phrase : Query.Phrase} (along : Along phrase)
    (t : Timeline σ) : Prop :=
  Driven record origin along { t with queue := [] } t.queue [] []

variable {record : Record σ α} {origin : σ} {phrase : Query.Phrase} {along later : Along phrase}
  {t u : Timeline σ} {commands : List Command} {unmade due started : List Task} {task : Task}

namespace Driven

/-- Nothing is asked of a session that does not run. -/
theorem of_stopped {commands' : List Command} {unmade' due' : List Task}
    (h : Driven record origin along t commands unmade due)
    (hs : ∀ s, t.status ≠ .running s) :
    Driven record origin along t commands' unmade' due' := by
  obtain ⟨waiting, log, p, h⟩ := h
  exact ⟨waiting, log, p, { h with running := fun s hr => absurd hr (hs s) }⟩

/-- Neither the clock nor what others send is part of a course. -/
theorem unseen (now : Nat) (inbox : List Notification) (channelOpen : Bool)
    (h : Driven record origin along t commands unmade due) :
    Driven record origin along { t with now, inbox, channelOpen } commands unmade due := by
  obtain ⟨waiting, log, p, h⟩ := h
  exact ⟨waiting, log, p, { h with }⟩

theorem perm {unmade' : List Task} (h : Driven record origin along t commands unmade due)
    (hp : unmade ~ unmade') : Driven record origin along t commands unmade' due := by
  obtain ⟨waiting, log, p, h⟩ := h
  refine ⟨waiting, log, p, { h with running := fun s hs => ?_ }⟩
  obtain ⟨l, hlive, hsession, hqueue, hleft, hunmade, hmade⟩ := h.running s hs
  exact ⟨l, hlive, hsession, hqueue, hleft, hunmade.trans hp, hmade⟩

/-- An input that is there to be taken in leads on to the next phase of the course. -/
theorem take {l : Live} {i : Input} {commands' : List Command} {due' : List Task}
    {waiting : List (Call σ Answer × Task)} {log : List Happening}
    (h : Follows record origin along t commands unmade due waiting log (.live l))
    (hi : l.Offers i) (hleft : l.left = t.closing) (hunmade : l.unmade ~ unmade)
    (hqueue : (l.take i).queue = commands')
    (hmade : (l.take i).made ~ waiting.map Prod.snd ++ due') :
    Driven record origin along
      { t with status := .running (l.session.step i).1, view := (l.session.step i).1.view }
      commands' (unmade ++ (l.session.step i).2) due' := by
  refine ⟨waiting, _, _,
    { course := h.course.step (.take i hi)
      known := along.step h.known (.take i hi) (by simp [Unprompted])
      queue := h.queue
      calls := h.calls
      serves := h.serves
      release := h.release
      view := by simp [Happening.view?]
      sent := by simpa [Happening.command?] using h.sent
      seen := by simpa [Happening.call?] using h.seen
      running := fun s hs => ?_
      ended := fun he => by cases he }⟩
  cases hs
  exact ⟨_, rfl, rfl, hqueue, hleft, hunmade.append_right _, hmade⟩

/-- An input that needs no answer. -/
theorem feed {i : Input}
    (h : Driven record origin along t (i.command?.toList ++ commands) unmade due)
    (hi : i.answer? = none) (ha : ∀ s, t.status = .running s → s.Accepts i) :
    Driven record origin along (t.feed i).1 commands (unmade ++ (t.feed i).2) due := by
  unfold Timeline.feed
  split
  · rename_i s hs
    obtain ⟨waiting, log, p, h⟩ := h
    obtain ⟨l, rfl, rfl, hqueue, hleft, hunmade, hmade⟩ := h.running s hs
    refine take h ?_ hleft hunmade ?_ ?_
    · cases i with
      | answered a => cases hi
      | command c => show l.queue.head? = some c; rw [hqueue]; rfl
      | notified _ | channelClosed | deadlinePassed => exact ha _ hs
    · cases i with
      | answered a => cases hi
      | command c => show l.queue.tail = commands; rw [hqueue]; rfl
      | notified _ | channelClosed | deadlinePassed => exact hqueue
    · show i.answer?.elim l.made _ ~ _
      rw [hi]
      exact hmade
  · rename_i hs
    exact h.of_stopped hs

/-- The answer of a call that was due. -/
theorem answered {a : Answer}
    (h : Driven record origin along t commands unmade (a.task :: due)) :
    Driven record origin along (t.feed (.answered a)).1 commands
      (unmade ++ (t.feed (.answered a)).2) due := by
  unfold Timeline.feed
  split
  · rename_i s hs
    obtain ⟨waiting, log, p, h⟩ := h
    obtain ⟨l, rfl, rfl, hqueue, hleft, hunmade, hmade⟩ := h.running s hs
    have hdue : a.task ∈ l.made := hmade.mem_iff.mpr (by simp)
    have herase : l.made.erase a.task ~ waiting.map Prod.snd ++ due :=
      ((hmade.trans List.perm_middle).erase a.task).trans (by simp)
    exact take h hdue hleft hunmade hqueue herase
  · rename_i hs
    exact h.of_stopped hs

theorem feedAll (inputs : List Input)
    (h : Driven record origin along t (inputs.filterMap (·.command?) ++ commands) unmade due)
    (hi : ∀ i ∈ inputs, i.answer? = none ∧ ∀ s : Running, s.Accepts i) :
    Driven record origin along (t.feedAll inputs).1 commands (unmade ++ (t.feedAll inputs).2)
      due := by
  induction inputs generalizing t unmade with
  | nil => simpa [Timeline.feedAll] using h
  | cons i rest ih =>
    obtain ⟨hanswer, haccepts⟩ := hi i (List.mem_cons_self ..)
    have hcommands : (i :: rest).filterMap (·.command?) ++ commands =
        i.command?.toList ++ (rest.filterMap (·.command?) ++ commands) := by
      cases hc : i.command? <;> simp [hc]
    rw [hcommands] at h
    have hfirst := h.feed hanswer fun s _ => haccepts s
    have hrest := ih hfirst fun j hj => hi j (List.mem_cons_of_mem _ hj)
    rw [List.append_assoc] at hrest
    exact hrest

theorem deadlinePassed (h : Driven record origin along t commands unmade due) :
    Driven record origin along
      (if t.deadlineDue then t.feed .deadlinePassed else (t, [])).1 commands
      (unmade ++ (if t.deadlineDue then t.feed .deadlinePassed else (t, [])).2) due := by
  split
  · rename_i hd
    refine feed h rfl fun s hs => ?_
    unfold deadlineDue at hd
    rw [hs] at hd
    exact (Bool.and_eq_true_iff.mp hd).1
  · simpa using h

/-! ## Calls -/

/-- What a service does without receiving a call is not seen. -/
theorem serve {service : σ} (h : Driven record origin along t commands unmade due)
    (hs : record.seen service = record.seen t.service) :
    Driven record origin along { t with service } commands unmade due := by
  obtain ⟨waiting, log, p, h⟩ := h
  exact ⟨waiting, log, p, { h with seen := hs.trans h.seen }⟩

theorem conclude {finish : σ → σ × Conclusion Answer}
    (h : Driven record origin along t commands unmade (task :: due))
    (hf : Serves record finish task) :
    Driven record origin along (t.conclude finish).1 commands
      (unmade ++ (t.conclude finish).2) due := by
  unfold Timeline.conclude
  split
  · have hserved := h.serve (hf.seen t.service)
    cases hc : (finish t.service).2 with
    | returned answer =>
      obtain rfl := hf.answers _ _ hc
      simp only [hc]
      exact answered hserved
    | crashed =>
      simp only [hc]
      obtain ⟨waiting, log, p, h⟩ := hserved
      exact ⟨[], log, p,
        { h with
          queue := rfl
          calls := rfl
          serves := by simp
          running := fun s hs => by cases hs
          ended := fun he => by cases he }⟩
  · rename_i hs
    exact h.of_stopped hs

/-- A call that is not due waits. -/
theorem wait {c : Call σ Answer}
    (h : Driven record origin along t commands unmade (task :: due))
    (hf : Serves record c.finish task) :
    Driven record origin along { t with calls := t.calls ++ [c] } commands unmade due := by
  obtain ⟨waiting, log, p, h⟩ := h
  refine ⟨waiting ++ [(c, task)], log, p,
    { h with
      calls := by simp [h.calls]
      serves := fun w hw => ?_
      running := fun s hs => ?_ }⟩
  · rcases List.mem_append.mp hw with hw | hw
    · exact h.serves w hw
    · cases List.mem_singleton.mp hw; exact hf
  · obtain ⟨l, hp, hsession, hqueue, hleft, hunmade, hmade⟩ := h.running s hs
    exact ⟨l, hp, hsession, hqueue, hleft, hunmade, by simpa using hmade⟩

/-- The call of a task begins, and is due. -/
theorem call {s : Running} (h : Driven record origin along t commands (task :: unmade) due)
    (hs : t.status = .running s) :
    Driven record origin along
      { t with service := (QueryService.receive t.service (task.request s.query)).service }
      commands unmade (task :: due) := by
  obtain ⟨waiting, log, p, h⟩ := h
  obtain ⟨l, rfl, rfl, hqueue, hleft, hunmade, hmade⟩ := h.running s hs
  have hm : task ∈ l.unmade := hunmade.mem_iff.mpr (List.mem_cons_self ..)
  refine ⟨waiting, _, _,
    { h with
      course := h.course.step (.call hm)
      known := along.step h.known (.call hm) (by simp [Unprompted])
      view := by simpa [Happening.view?] using h.view
      sent := by simpa [Happening.command?] using h.sent
      seen := by simp [record.seen_receive, h.seen, Happening.call?]
      running := fun s' hs' => ?_
      ended := fun he => by rw [hs] at he; cases he }⟩
  rw [hs] at hs'
  cases hs'
  refine ⟨_, rfl, rfl, hqueue, hleft, ?_, ?_⟩
  · show l.unmade.erase task ~ unmade
    exact (hunmade.erase task).trans (by simp)
  · show l.made ++ [task] ~ _
    refine (hmade.append_right [task]).trans ?_
    rw [List.append_assoc]
    exact (List.perm_append_singleton task due).append_left _

/-- A call that is made answers at once or waits. -/
theorem launch (h : Driven record origin along t commands (task :: unmade) due) :
    Driven record origin along (t.launch task).1 commands ((t.launch task).2 ++ unmade)
      due := by
  unfold Timeline.launch
  split
  · rename_i s hs
    have hcalled := h.call hs
    have hf : Serves record (fun service =>
        (((QueryService.receive t.service (task.request s.query)).conclude service).1,
          answerOf s.query task
            ((QueryService.receive t.service (task.request s.query)).conclude service).2)) task :=
      ⟨answersFor_answerOf _ task _, fun service => record.seen_conclude _ service _⟩
    dsimp only
    split
    · exact (hcalled.conclude hf).perm List.perm_append_comm
    · exact hcalled.wait hf
  · rename_i hs
    exact h.of_stopped hs

/-- There is enough fuel for the calls of all tasks and of those that they bring on. -/
theorem launchFrom {fuel : Nat} {tasks : List Task}
    (h : Driven record origin along t commands (tasks ++ unmade) due)
    (hw : weight tasks ≤ fuel) :
    Driven record origin along (launchFrom fuel t tasks) commands unmade due := by
  induction fuel generalizing t tasks with
  | zero =>
    cases tasks with
    | nil => exact h
    | cons task rest =>
      have := taskWeight_pos task
      have : taskWeight task + weight rest ≤ 0 := hw
      omega
  | succ fuel ih =>
    cases tasks with
    | nil => exact h
    | cons task rest =>
      have hmore := t.weight_launch task
      have hsum : taskWeight task + weight rest ≤ fuel + 1 := hw
      have hnext : Driven record origin along (t.launch task).1 commands
          (((t.launch task).2 ++ rest) ++ unmade) due := by
        rw [List.append_assoc]; exact h.launch
      have hle : weight ((t.launch task).2 ++ rest) ≤ fuel := by rw [weight_append]; omega
      exact ih hnext hle

theorem launchAll {tasks : List Task}
    (h : Driven record origin along t commands (tasks ++ unmade) due) :
    Driven record origin along (t.launchAll tasks) commands unmade due :=
  h.launchFrom (Nat.le_refl _)

/-! ## The end -/

/-- A session that its user has let go of ends when it has taken its commands in. Then nothing
waits for it but the call for its release. -/
theorem shutDown (h : Driven record origin along t [] unmade due) (hc : t.closing = true) :
    Driven record origin along t.shutDown [] [] [] := by
  unfold Timeline.shutDown
  split
  · rename_i s hs
    obtain ⟨waiting, log, p, h⟩ := h
    obtain ⟨l, rfl, rfl, hqueue, hleft, _⟩ := h.running s hs
    have hclosed := h.course.step (.close (hleft.trans hc) hqueue)
    have hcourse := hclosed.step (.release l.session.query)
    have hknown := along.step (along.step h.known (.close (hleft.trans hc) hqueue)
      (by simp [Unprompted])) (.release l.session.query) (by simp [Unprompted])
    have hquery : l.session.close.query = l.session.query := rfl
    have hseen : record.seen
        (QueryService.receive t.service (.release l.session.close.query)).service =
          record.seen origin ++ (Session.calls (log ++ [.published l.session.close.view] ++
            [.called (.release l.session.query)])).flatMap record.note := by
      simp [record.seen_receive, h.seen, Happening.call?, hquery]
    have hended : Follows record origin along
        { t with
          service := (QueryService.receive t.service (.release l.session.close.query)).service
          status := .ended, view := l.session.close.view, calls := [], queue := [], inbox := [] }
        [] [] [] [] _ _ :=
      { h with
        course := hcourse
        known := hknown
        queue := rfl
        calls := rfl
        serves := by simp
        view := by simp [Happening.view?]
        sent := by simpa [Happening.command?] using h.sent
        seen := hseen
        running := fun s hs => by cases hs
        ended := fun _ => ⟨_, rfl⟩ }
    have hreceived := record.seen_conclude t.service
    dsimp only
    split
    · exact serve ⟨[], _, _, hended⟩ (hreceived _ _)
    · exact ⟨[], _, _, { hended with
        release := fun c hc service => by cases hc; exact hreceived service _ }⟩
  · rename_i hs
    exact h.of_stopped hs

theorem shutDownIfLeft (h : Driven record origin along t [] [] []) :
    Driven record origin along (if t.closing then t.shutDown else t) [] [] [] := by
  split
  · rename_i hc
    exact h.shutDown hc
  · exact h

theorem atRest (h : Driven record origin along t [] [] []) :
    AtRest record origin along t := by
  obtain ⟨waiting, log, p, h⟩ := h
  unfold AtRest
  rw [h.queue]
  exact ⟨waiting, log, p, { h with queue := rfl }⟩

/-! ## The calls that are due -/

/-- Calls that conclude one after the other, each with what follows from it. -/
theorem concludeAll {calls : List (Call σ Answer × Task)}
    (h : Driven record origin along t [] [] (calls.map Prod.snd))
    (hf : ∀ w ∈ calls, Serves record w.1.finish w.2) :
    Driven record origin along ((calls.map Prod.fst).foldl
      (fun t c => let (t, more) := t.conclude c.finish; t.launchAll more) t) [] [] [] := by
  induction calls generalizing t with
  | nil => exact h
  | cons w rest ih =>
    have hfirst := conclude h (hf w (List.mem_cons_self ..))
    rw [List.nil_append] at hfirst
    have hnext := launchAll (by rw [List.append_nil]; exact hfirst)
    exact ih hnext fun w hw => hf w (List.mem_cons_of_mem _ hw)

theorem concludeDue (h : Driven record origin along t [] [] []) :
    Driven record origin along t.concludeDue [] [] [] := by
  obtain ⟨waiting, log, p, h⟩ := h
  unfold Timeline.concludeDue
  dsimp only
  rw [h.calls, List.filter_map, List.filter_map]
  refine concludeAll ⟨_, log, p,
    { h with
      calls := rfl
      serves := fun w hm => h.serves w (List.mem_filter.mp hm).1
      running := fun s hs => ?_ }⟩ fun w hm => h.serves w (List.mem_filter.mp hm).1
  obtain ⟨l, hp, hsession, hqueue, hleft, hunmade, hmade⟩ := h.running s hs
  refine ⟨l, hp, hsession, hqueue, hleft, hunmade, ?_⟩
  rw [List.append_nil] at hmade
  rw [← List.map_append]
  refine hmade.trans (List.Perm.map _ ?_)
  exact (List.filter_append_perm _ waiting).symm.trans List.perm_append_comm

theorem concludeRelease (h : Driven record origin along t [] [] []) :
    Driven record origin along t.concludeRelease [] [] [] := by
  unfold Timeline.concludeRelease
  split
  · rename_i c hc
    split
    · obtain ⟨waiting, log, p, h⟩ := h
      exact ⟨waiting, log, p,
        { h with
          seen := (h.release c hc t.service).trans h.seen
          release := fun _ hnone => by cases hnone }⟩
    · exact h
  · exact h

end Driven

namespace AtRest

/-! ## The session on its clock -/

theorem takeIn (h : AtRest record origin along t) :
    Driven record origin along t.takeIn [] [] [] := by
  have hnotified : (t.inbox.map Input.notified).filterMap (·.command?) = [] := by
    refine List.filterMap_eq_nil_iff.mpr fun i hi => ?_
    obtain ⟨n, _, rfl⟩ := List.mem_map.mp hi
    rfl
  have hsent : (t.queue.map Input.command).filterMap (·.command?) ++ [] = t.queue := by
    rw [List.append_nil, List.filterMap_map]
    exact List.filterMap_some
  have hinbox : Driven record origin along { t with inbox := [], queue := [] }
      ((t.inbox.map Input.notified).filterMap (·.command?) ++ t.queue) [] [] := by
    rw [hnotified]
    exact h.unseen t.now [] t.channelOpen
  have hheard := hinbox.feedAll _ (by simp [Input.answer?, Running.Accepts])
  have hdue := hheard.deadlinePassed
  rw [← hsent] at hdue
  have hcommanded := hdue.feedAll _ (by simp [Input.answer?, Running.Accepts])
  rw [List.nil_append] at hcommanded
  have hlaunched := Driven.launchAll (by rw [List.append_nil]; exact hcommanded)
  exact hlaunched.shutDownIfLeft

theorem settle (h : AtRest record origin along t) :
    AtRest record origin along t.settle :=
  h.takeIn.concludeDue.concludeRelease.atRest

theorem setClock (h : AtRest record origin along t) (instant : Nat) :
    AtRest record origin along (t.setClock instant) :=
  h.unseen (max t.now instant) t.inbox t.channelOpen

theorem moveTo (h : AtRest record origin along t) (instant : Nat) :
    AtRest record origin along (t.moveTo instant) := (h.setClock instant).settle

theorem elapses (h : AtRest record origin along t) (hu : t.Elapses u) :
    AtRest record origin along u := hu.invariant settle (fun i h => h.setClock i) h

/-! ## What others do -/

theorem notify (h : AtRest record origin along t) (n : Notification) :
    AtRest record origin along (t.notify n).1 := by
  rcases t.notify_cases n with hsent | hsent
  · rw [hsent]
    exact h.unseen t.now (t.inbox ++ [n]) t.channelOpen
  · rw [hsent]
    exact h

theorem disconnect (h : AtRest record origin along t) :
    AtRest record origin along t.disconnect :=
  h.unseen t.now t.inbox false

/-- More may be known of the course of a session that runs, as its view is on show. -/
theorem learn {s : Running} (h : AtRest record origin along t) (hs : t.status = .running s)
    (hmore : ∀ {log l}, along.Holds log (.live l) → l.session.view = t.view →
      later.Holds log (.live l)) : AtRest record origin later t := by
  obtain ⟨waiting, log, p, h⟩ := h
  obtain ⟨l, rfl, _⟩ := h.running s hs
  exact ⟨waiting, log, _, { h with known := hmore h.known (h.course.view_eq h.view) }⟩

/-- A session that has ended is being released. -/
theorem learn_ended (h : AtRest record origin along t) (hs : t.status = .ended)
    (hmore : ∀ {log id}, along.Holds log (.releasing id) → later.Holds log (.releasing id)) :
    AtRest record origin later t := by
  obtain ⟨waiting, log, p, h⟩ := h
  obtain ⟨id, rfl⟩ := h.ended hs
  exact ⟨waiting, log, _, { h with known := hmore h.known }⟩

theorem weaken (h : AtRest record origin along t)
    (hless : ∀ {log p}, along.Holds log p → later.Holds log p) :
    AtRest record origin later t := by
  obtain ⟨waiting, log, p, h⟩ := h
  exact ⟨waiting, log, p, { h with known := hless h.known }⟩

/-- The session has taken in what was sent when nothing more can be done by now. -/
theorem queue_settle (h : AtRest record origin along t) : t.settle.queue = [] := by
  obtain ⟨_, _, _, hsettled⟩ := h.takeIn.concludeDue.concludeRelease
  exact hsettled.queue

/-- A command that is accepted is the last in the queue, which has room for it, and is counted. -/
theorem accept {c : Command} (h : AtRest record origin along t) (hsend : t.send c = (u, .ok ()))
    (hknown : ∀ {log l}, along.Holds log (.live l) → (Session.sent log).length + 1 = u.sent →
      (0 < t.capacity → l.queue.length < t.capacity) →
      later.Holds (log ++ [.sent c]) (.live { l with queue := l.queue ++ [c] })) :
    AtRest record origin later u := by
  obtain ⟨ready, hready, ⟨s, hs, hsent⟩ | hsent⟩ := t.send_cases c
  · cases hsend.symm.trans hsent
    have hrest : AtRest record origin along ready ∧
        (0 < t.capacity → ready.queue.length < t.capacity) := by
      rcases hready with ⟨rfl, hroom⟩ | rfl
      · exact ⟨h, fun _ => hroom⟩
      · exact ⟨h.settle, fun hpos => by rw [h.queue_settle]; exact hpos⟩
    obtain ⟨⟨waiting, log, p, hfollows⟩, hroom⟩ := hrest
    obtain ⟨l, rfl, rfl, hqueue, hleft, hunmade, hmade⟩ := hfollows.running s hs
    refine ⟨waiting, _, _,
      { hfollows with
        course := hfollows.course.step (.send l c)
        known := hknown hfollows.known (congrArg (· + 1) hfollows.sent)
          (by rw [hqueue]; exact hroom)
        view := by simpa [Happening.view?] using hfollows.view
        sent := by simpa [Happening.command?] using hfollows.sent
        seen := by simpa [Happening.call?] using hfollows.seen
        running := fun s' hs' => ?_
        ended := fun he => by rw [hs] at he; cases he }⟩
    rw [hs] at hs'
    cases hs'
    exact ⟨_, rfl, rfl, congrArg (· ++ [c]) hqueue, hleft, hunmade, hmade⟩
  · cases hsend.symm.trans hsent

/-- The user lets go of a session that runs. -/
theorem leave {s : Running} (h : AtRest record origin along t) (hs : t.status = .running s)
    (hknown : ∀ {log l}, along.Holds log (.live l) →
      later.Holds (log ++ [.left]) (.live { l with left := true })) :
    AtRest record origin later t.drop := by
  obtain ⟨waiting, log, p, h⟩ := h
  obtain ⟨l, rfl, rfl, hqueue, _, hunmade, hmade⟩ := h.running s hs
  unfold Timeline.drop
  refine ⟨waiting, _, _,
    { h with
      course := h.course.step (.leave l)
      known := hknown h.known
      view := by simpa [Happening.view?] using h.view
      sent := by simpa [Happening.command?] using h.sent
      seen := by simpa [Happening.call?] using h.seen
      running := fun s' hs' => ?_
      ended := fun he => by cases hs.symm.trans he }⟩
  cases hs.symm.trans hs'
  exact ⟨_, rfl, rfl, hqueue, rfl, hunmade, hmade⟩

/-! ## Any user -/

section

variable {past : List Happening}

/-- A command is sent; more pages are asked for only if they may be. -/
theorem send (h : AtRest record origin (.since phrase past) t) (c : Command)
    (hc : c = .loadMore → ∃ v ∈ views past, v.isRanked = true) :
    AtRest record origin (.since phrase past) (t.send c).1 := by
  obtain ⟨ready, hready, ⟨_, _, hsent⟩ | hsent⟩ := t.send_cases c
  · rw [hsent]
    refine h.accept hsent fun hknown _ _ => ?_
    obtain ⟨honward, hgated⟩ := hknown
    refine ⟨honward.trans (List.prefix_append ..), Gated.send_iff.mpr ⟨hgated, fun he => ?_⟩⟩
    obtain ⟨v, hv, hranked⟩ := hc he
    exact ⟨v, (honward.filterMap _).mem hv, hranked⟩
  · rw [hsent]
    rcases hready with ⟨rfl, _⟩ | rfl
    · exact h
    · exact h.settle

/-- The view that the user looks at is the last one of the course. -/
theorem loadMore (h : AtRest record origin (.since phrase past) t) :
    AtRest record origin (.since phrase past) t.loadMore.1 := by
  unfold Timeline.loadMore
  split
  · rename_i hranked
    obtain ⟨waiting, log, p, h⟩ := h
    obtain ⟨honward, hgated⟩ := h.known
    have hview : t.view ∈ views log := List.mem_of_getLast? h.view
    have hrest : AtRest record origin (.since phrase log) t :=
      ⟨waiting, log, p, { h with known := ⟨List.prefix_rfl, hgated⟩ }⟩
    have hsent := hrest.send .loadMore fun _ => ⟨t.view, hview, hranked⟩
    exact hsent.weaken fun hknown => ⟨honward.trans hknown.1, hknown.2⟩
  · exact h

theorem drop (h : AtRest record origin (.since phrase past) t) :
    AtRest record origin (.since phrase past) t.drop := by
  by_cases hs : ∃ s, t.status = .running s
  · obtain ⟨s, hs⟩ := hs
    refine h.leave hs fun hknown => ?_
    exact ⟨hknown.1.trans (List.prefix_append ..), hknown.2.append (by simp)⟩
  · obtain ⟨waiting, log, p, h⟩ := h
    exact ⟨waiting, log, p, { h with running := fun s hrunning => absurd ⟨s, hrunning⟩ hs }⟩

theorem close (h : AtRest record origin (.since phrase past) t) :
    AtRest record origin (.since phrase past) t.close.1 := by
  rw [close_fst]
  exact h.drop.settle

theorem closeAndRelease (h : AtRest record origin (.since phrase past) t) (limit : Nat) :
    AtRest record origin (.since phrase past) (t.closeAndRelease limit).1 :=
  h.close.elapses (t.elapses_closeAndRelease limit)

end

/-! ## The beginning -/

theorem start {settings : Settings} (h : start origin phrase settings = .ok t)
    (hknown : ∀ id, along.Holds (opened phrase id) (.live { session := .init ⟨id, phrase⟩ })) :
    AtRest record origin along t := by
  obtain ⟨id, started, handed, _, _, hopening, hsubmission, _, rfl⟩ := start_eq_ok h
  refine ⟨[], opened phrase id, _,
    { course := (Course.submitting phrase id).step (.accepted id)
      known := hknown id
      queue := rfl
      calls := rfl
      serves := by simp
      release := fun c hc => by cases hc
      view := rfl
      sent := rfl
      seen := ?_
      running := fun s hs => ?_
      ended := fun he => by cases he }⟩
  · have hstart := record.seen_call hopening
    have hsubmit := record.seen_call hsubmission
    simp [hsubmit, hstart, opened, submitted, Happening.call?]
  · cases hs
    exact ⟨_, rfl, rfl, rfl, rfl, .nil, .nil⟩

end AtRest

/-- What is left of a session that could not be started has followed a course: to where it was
brought down, or to its end. If there is a query then, its release follows. -/
theorem start_stillborn {settings : Settings} {left : Stillborn σ} (record : Record σ α)
    (h : start origin phrase settings = .error left) :
    ∃ log p, Course phrase log p ∧
      record.seen left.service = record.seen origin ++ (Session.calls log).flatMap record.note ∧
      (left.spawned = none ∧ (p = .starting ∨ p = .unstarted ∨ ∃ id, p = .submitting id) ∨
        ∃ id, left.spawned = some id ∧ p = .finished id ∧
          record.seen left.settle = record.seen origin ++
            (Session.calls (log ++ [.called (.release id)])).flatMap record.note) := by
  unfold start at h
  dsimp only at h
  split at h
  · rename_i service hopening
    cases h
    refine ⟨_, _, .start, ?_, Or.inl ⟨rfl, Or.inl rfl⟩⟩
    simp [record.seen_call hopening, Happening.call?]
  · rename_i service fault hopening
    cases h
    refine ⟨_, _, Course.start.step (.unstarted fault), ?_, Or.inl ⟨rfl, Or.inr (Or.inl rfl)⟩⟩
    simp [record.seen_call hopening, Happening.call?]
  · rename_i service id hopening
    have submitting := Course.submitting phrase id
    have hstart := record.seen_call hopening
    split at h
    · rename_i service' hsubmission
      cases h
      refine ⟨_, _, submitting, ?_, Or.inl ⟨rfl, Or.inr (Or.inr ⟨id, rfl⟩)⟩⟩
      simp [record.seen_call hsubmission, hstart, submitted, Happening.call?]
    · rename_i service' fault hsubmission
      cases h
      have hsubmit := record.seen_call hsubmission
      refine ⟨_, _, submitting.step (.refused id fault), ?_, Or.inr ⟨id, rfl, rfl, ?_⟩⟩
      · simp [hsubmit, hstart, submitted, Happening.call?]
      · rw [record.seen_settle rfl]
        simp [hsubmit, hstart, submitted, Happening.call?]
    · rename_i service' _ hsubmission
      split at h
      · cases h
        refine ⟨_, _, submitting, ?_, Or.inl ⟨rfl, Or.inr (Or.inr ⟨id, rfl⟩)⟩⟩
        simp [record.seen_call hsubmission, hstart, submitted, Happening.call?]
      · cases h

/-! ## What the user of a service brings about -/

/-- The timelines that a user brings about who starts a session of a phrase. -/
inductive Reached (origin : σ) (phrase : Query.Phrase) : Timeline σ → Prop
  | start {settings : Settings} {t : Timeline σ} (h : start origin phrase settings = .ok t) :
      Reached origin phrase t
  | notify {t : Timeline σ} (n : Notification) (h : Reached origin phrase t) :
      Reached origin phrase (t.notify n).1
  | disconnect {t : Timeline σ} (h : Reached origin phrase t) : Reached origin phrase t.disconnect
  | loadMore {t : Timeline σ} (h : Reached origin phrase t) : Reached origin phrase t.loadMore.1
  | mark {t : Timeline σ} (index : Nat) (h : Reached origin phrase t) :
      Reached origin phrase (t.mark index).1
  | markTailDistractors {t : Timeline σ} (h : Reached origin phrase t) :
      Reached origin phrase t.markTailDistractors.1
  | pass {t : Timeline σ} (milliseconds : Nat) (h : Reached origin phrase t) :
      Reached origin phrase (t.pass milliseconds)
  | awaitView {t : Timeline σ} (p : View → Bool) (limit : Option Nat)
      (h : Reached origin phrase t) : Reached origin phrase (t.awaitView p limit).1
  | drop {t : Timeline σ} (h : Reached origin phrase t) : Reached origin phrase t.drop
  | closeAndRelease {t : Timeline σ} (limit : Nat) (h : Reached origin phrase t) :
      Reached origin phrase (t.closeAndRelease limit).1
  | close {t : Timeline σ} (h : Reached origin phrase t) : Reached origin phrase t.close.1

theorem Reached.atRest (h : Reached origin phrase t) :
    AtRest record origin (.since phrase []) t := by
  induction h with
  | start h =>
    refine .start h fun _ => ⟨List.nil_prefix, .of_not_mem ?_⟩
    simp [opened, submitted]
  | notify n _ ih => exact ih.notify n
  | disconnect _ ih => exact ih.disconnect
  | loadMore _ ih => exact ih.loadMore
  | mark index _ ih => exact ih.send _ (by simp)
  | markTailDistractors _ ih => exact ih.send _ (by simp)
  | pass milliseconds _ ih => exact ih.elapses (elapses_pass ..)
  | awaitView p limit _ ih => exact ih.elapses (elapses_await ..)
  | drop _ ih => exact ih.drop
  | closeAndRelease limit _ ih => exact ih.closeAndRelease limit
  | close _ ih => exact ih.close

/-- **A session on its clock follows a course.** Whatever the service does and the user does with
it, the last view is the one on show, the commands and the calls that were recorded are those of
the course, a session that runs stands where the course does, with each call that was made and has
not returned waiting in the timeline, and one that has ended is being released. -/
theorem Reached.course (h : Reached origin phrase t) (record : Record σ α) :
    ∃ waiting : List (Call σ Answer × Task), ∃ log p, Course phrase log p ∧
      (views log).getLast? = some t.view ∧ (Session.sent log).length = t.sent ∧
      record.seen t.service = record.seen origin ++ (Session.calls log).flatMap record.note ∧
      t.calls = waiting.map Prod.fst ∧ (∀ w ∈ waiting, AnswersFor w.1.finish w.2) ∧
      (∀ s, t.status = .running s → ∃ l, p = .live l ∧ l.session = s ∧ l.queue = t.queue ∧
        l.left = t.closing ∧ l.unmade = [] ∧ l.made ~ waiting.map Prod.snd) ∧
      (t.status = .ended → ∃ id, p = .releasing id) := by
  have hrest : AtRest record origin (.since phrase []) t := h.atRest
  obtain ⟨waiting, log, p, hf⟩ := hrest
  refine ⟨waiting, log, p, hf.course, hf.view, hf.sent, hf.seen, hf.calls,
    fun w hw => (hf.serves w hw).answers, fun s hs => ?_, hf.ended⟩
  obtain ⟨l, hp, hsession, hqueue, hleft, hunmade, hmade⟩ := hf.running s hs
  exact ⟨l, hp, hsession, hqueue, hleft, hunmade.eq_nil, by simpa using hmade⟩

/-- Of whatever the user does, more pages are asked for only after a view has shown the query as
ranked. -/
theorem Reached.gated (h : Reached origin phrase t) (record : Record σ α) :
    ∃ log p, Course phrase log p ∧ Gated log ∧ (views log).getLast? = some t.view ∧
      record.seen t.service = record.seen origin ++ (Session.calls log).flatMap record.note := by
  have hrest : AtRest record origin (.since phrase []) t := h.atRest
  obtain ⟨_, log, p, hf⟩ := hrest
  exact ⟨log, p, hf.course, hf.known.2, hf.view, hf.seen⟩

/-- The log of a script records every call. -/
def scriptLog : Record Service.Script Request where
  seen := Service.Script.log
  note r := [r]
  seen_receive _ _ := rfl
  seen_conclude _ _ _ := rfl

/-- What a script has logged of a session are the calls of one of its courses. -/
theorem Reached.log_eq {script : Service.Script} {t : Timeline Service.Script}
    (h : Reached script phrase t) :
    ∃ log p, Course phrase log p ∧ (views log).getLast? = some t.view ∧
      t.service.log = script.log ++ Session.calls log ∧
      (t.status = .ended → ∃ id, p = .releasing id) := by
  obtain ⟨_, log, p, hcourse, hview, _, hseen, _, _, _, hended⟩ := h.course scriptLog
  have hnotes : (Session.calls log).flatMap scriptLog.note = Session.calls log :=
    List.flatMap_singleton' _
  rw [hnotes] at hseen
  exact ⟨log, p, hcourse, hview, hseen, hended⟩

end Timeline

end RankedSearch.Session
