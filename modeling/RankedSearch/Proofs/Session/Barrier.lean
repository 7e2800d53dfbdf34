import RankedSearch.Proofs.Session.Course
import RankedSearch.Proofs.Session.LastView
import RankedSearch.Session.Timeline

/-! # What a synced view tells

A user who has sent commands waits until a view counts them all, with no mark on its way and no page
loading. The three figures are published together after every input, so that such a view is that of
a session which has handled the commands and has nothing outstanding that came of them. -/
namespace RankedSearch.Session

open scoped List

/-! ## What was started and what was answered -/

/-- Whether the outcome of a task shows in the list: fetches and marks. -/
def Task.isWork (t : Task) : Bool := t.isFetch || t.isUpdate

/-- The tasks that a history has started. -/
def begun (history : List Event) : List Task := history.flatMap (·.started)

/-- The tasks that a history has answered. -/
def answered (history : List Event) : List Task :=
  history.filterMap fun e => e.input.answer?.map Answer.task

/-- An input settles the task that it answers, if it is an answer. -/
theorem Running.Accepts.tasks_perm {s : Running} {i : Input} (h : s.Accepts i) :
    s.tasks ~ (i.answer?.map Answer.task).toList ++
      i.answer?.elim s.tasks fun a => s.tasks.erase a.task := by
  cases i with
  | answered a => exact List.perm_cons_erase h
  | notified _ | channelClosed | deadlinePassed | command _ => exact .rfl

/-- Every task that was started was answered or is outstanding. -/
theorem Run.begun_perm {route : Query.Route} {history : List Event} {s : Running}
    (r : Run route history s) : begun history ~ answered history ++ s.tasks := by
  induction r with
  | refl => exact .nil
  | @step history s i _ ha ih =>
    have htasks : (s.step i).1.tasks = _ := (s.reacts i).tasks_eq
    have hbegun : begun (history ++ [⟨i, (s.step i).2⟩]) = begun history ++ (s.step i).2 := by
      simp [begun]
    have hanswered : answered (history ++ [⟨i, (s.step i).2⟩]) =
        answered history ++ (i.answer?.map Answer.task).toList := by
      cases i <;> simp [answered, Input.answer?]
    rw [htasks, hbegun, hanswered, ← List.append_assoc]
    refine (ih.trans ?_).append_right _
    rw [List.append_assoc]
    exact ha.tasks_perm.append_left _

/-! ## The last view of a log -/

variable {phrase : Query.Phrase} {id : Query.Id} {body log : List Happening} {l : Live} {p : Phase}
  {v : View}

theorem Told.commandsHandled_eq (h : Told phrase id body l) :
    l.session.view.commandsHandled = (commands (events body)).length := by
  rw [(Run.upToDate h.run).view]
  rfl

theorem Ended.last_published (h : Ended phrase id log) (hv : (views log).getLast? = some v) :
    v.closed = true ∧ v.commandsHandled = (sent log).length := by
  cases h with
  | refused fault => simp [submitted, Happening.view?] at hv
  | @closed body l h hq =>
    have hlast : v = l.session.close.view := by simpa [Happening.view?] using hv.symm
    have hsent : sent (opened phrase id ++ body ++ [.published l.session.close.view]) =
        commands (events body) := by
      simp [opened, submitted, Happening.command?, h.sent, hq]
    rw [hsent, hlast, (Run.upToDate h.run).close_view]
    exact ⟨rfl, h.commandsHandled_eq⟩

/-- The last view of a log is that of the session as it runs, or it is closed and counts every
command. -/
theorem Course.last_published (c : Course phrase log p) (hv : (views log).getLast? = some v) :
    (∃ id body l, log = opened phrase id ++ body ∧ Told phrase id body l ∧ v = l.session.view) ∨
      v.closed = true ∧ v.commandsHandled = (sent log).length := by
  have h := c.reads
  cases p with
  | starting => cases h; simp [Happening.view?] at hv
  | unstarted => obtain ⟨fault, rfl⟩ := h; simp [Happening.view?] at hv
  | submitting id => cases h; simp [submitted, Happening.view?] at hv
  | live l =>
    obtain ⟨id, body, rfl, h⟩ := h
    exact Or.inl ⟨id, body, l, rfl, h, (c.view_eq hv).symm⟩
  | finished id => exact Or.inr (h.last_published hv)
  | releasing id =>
    obtain ⟨before, h, rfl⟩ := h
    have hlast : (views before).getLast? = some v := by simpa [Happening.view?] using hv
    simpa [Happening.command?] using Or.inr (h.last_published hlast)
  | released id =>
    obtain ⟨before, result, h, rfl⟩ := h
    have hlast : (views before).getLast? = some v := by simpa [Happening.view?] using hv
    simpa [Happening.command?] using Or.inr (h.last_published hlast)

/-! ## The barrier -/

/-- What a view tells of the commands that were sent, when all that came of them is done. -/
structure Synced (sent : List Command) (history : List Event) (v : View) : Prop where
  /-- The commands were handled, all of them and in order. -/
  handled : commands history = sent
  /-- Every fetch and every mark that was started has been answered. -/
  answered : (begun history).filter Task.isWork ~ (answered history).filter Task.isWork
  /-- The list is what the pages have brought. -/
  pages : v.items.map unmarked = (delivered history).map unmarked
  /-- Every update of an item has been confirmed or rolled back, and the item shows what they have
  left: a mark just if it was delivered or confirmed, if they do not overlap or none has failed. -/
  marks : ∀ index item, v.items[index]? = some item →
    ∃ d, (delivered history)[index]? = some d ∧
      (marks index history).countP MarkEvent.settles = (marks index history).count .marked ∧
      item.falseNegative = shown d.falseNegative (marks index history) ∧
      (Apart (marks index history) ∨ (∀ previous, .rolledBack previous ∉ marks index history) →
        (item.falseNegative = true ↔
          d.falseNegative = true ∨ .confirmed ∈ marks index history))
  /-- The failure that came last is on show. -/
  error : v.lastError = lastOf (Input.complaint? v.query) history

/-- A session that loads no page and has no mark on its way has no work outstanding. -/
theorem Accounted.idle {s : Running} (h : Accounted s) (hp : s.pending = 0)
    (hl : s.pager.loading = false) : ∀ t ∈ s.tasks, t.isWork = false := by
  have hupdates := List.countP_eq_zero.mp (h.pending.symm.trans hp)
  have hfetches : s.tasks.countP Task.isFetch = 0 := by rw [h.fetches, hl]; rfl
  intro t ht
  have hupdate := hupdates t ht
  have hfetch := List.countP_eq_zero.mp hfetches t ht
  simp only [Bool.not_eq_true] at hupdate hfetch
  rw [Task.isWork, hupdate, hfetch]
  rfl

theorem Told.synced (h : Told phrase id body l) (hq : l.queue = [])
    (hp : l.session.view.pendingUpdates = 0) (hl : l.session.view.loadingPage = false) :
    Synced (Session.sent body) (events body) l.session.view := by
  have hview := (Run.upToDate h.run).view
  have hidle : ∀ t ∈ l.session.tasks, t.isWork = false := by
    rw [hview] at hp hl
    exact (Run.accounted h.run).idle hp hl
  refine
    { handled := by rw [h.sent, hq, List.append_nil]
      answered := ?_
      pages := by rw [hview]; exact (Run.paged h.run).items
      marks := fun index item hx => ?_
      error := by rw [hview]; rfl }
  · have hnone : l.session.tasks.filter Task.isWork = [] :=
      List.filter_eq_nil_iff.mpr fun t ht => by simp [hidle t ht]
    have hperm := (Run.begun_perm h.run).filter Task.isWork
    rwa [List.filter_append, hnone, List.append_nil] at hperm
  · have hsettled : l.session.Settled index := by
      rintro patch (hm | hm) <;> cases hidle _ hm
    rw [hview] at hx
    obtain ⟨d, hd, _, hshown, hupdates⟩ := Run.item_delivered h.run hx
    rw [hsettled.saved_eq_nil] at hupdates
    refine ⟨d, hd, by simpa using hupdates.length_add, hshown, ?_⟩
    rw [hshown]
    rintro (ha | hnone)
    · exact (hupdates.of_apart ha).1 rfl
    · exact hupdates.converges_iff.mpr fun previous hl =>
        absurd (mem_of_lastWrite hl).1 (hnone previous)

/-- **A synced view is a barrier, and no command is lost.** Whoever has sent commands and sends no
more until a view is published that counts them, with no mark on its way and no page loading, sees
all that came of them, unless the session is closed. The last view of a session that is closed
counts every command that was accepted. -/
theorem Course.sync_is_barrier (c : Course phrase log p) (hv : (views log).getLast? = some v) :
    (v.closed = false → ∀ before during, log = before ++ during → sent during = [] →
      Timeline.isSynced (sent before).length v = true → Synced (sent before) (events log) v) ∧
    (v.closed = true → v.commandsHandled = (sent log).length) := by
  rcases c.last_published hv with ⟨id, body, l, hlog, h, rfl⟩ | ⟨hclosed, hcount⟩
  · have hopen : l.session.view.closed = false := by rw [(Run.upToDate h.run).view]; rfl
    refine ⟨fun _ before during hsplit hnone hsync => ?_, fun hclosed => ?_⟩
    · have hsent : sent body = sent before := by
        have hboth := congrArg sent (hlog.symm.trans hsplit)
        simpa [opened, submitted, Happening.command?, hnone] using hboth
      have hevents : events log = events body := by
        simp [hlog, opened, submitted, Happening.event?]
      simp only [Timeline.isSynced, Bool.and_eq_true, decide_eq_true_eq, beq_iff_eq,
        Bool.not_eq_true'] at hsync
      obtain ⟨⟨hhandled, hpending⟩, hloading⟩ := hsync
      have hqueue : l.queue = [] := by
        have hlength := congrArg List.length h.sent
        rw [h.commandsHandled_eq] at hhandled
        rw [hsent, List.length_append] at hlength
        exact List.eq_nil_of_length_eq_zero (by omega)
      rw [← hsent, hevents]
      exact h.synced hqueue hpending hloading
    · rw [hopen] at hclosed
      cases hclosed
  · refine ⟨fun hopen => ?_, fun _ => hcount⟩
    rw [hclosed] at hopen
    cases hopen

/-- A user who has marked an item and asked for the next page, which fails, waits for the mark. -/
theorem Course.sync_is_barrier_waiting :
    ∃ before during p v, Course sampleRoute.phrase (before ++ during) p ∧
      (views (before ++ during)).getLast? = some v ∧ v.closed = false ∧
      sent before = [.mark 0, .loadMore] ∧ sent during = [] ∧
      Timeline.isSynced (sent before).length v = true ∧
      v.lastError = some (Service.Fault.message .transport) ∧
      Synced (sent before) (events (before ++ during)) v := by
  let patch : Patch := ⟨0, "a.jpg", false⟩
  have starting : Course sampleRoute.phrase _ _ := .start
  have accepted := (starting.step (.started sampleRoute.id)).step (.accepted _)
  have ranked := accepted.step (.take (.notified ⟨sampleRoute.id, .stage .ranked⟩) trivial)
  have fetching := ranked.step (.call (List.mem_singleton.mpr rfl : Task.fetch 1 ∈ [Task.fetch 1]))
  have loaded := fetching.step
    (.take (.answered (.fetched 1 (.ok (samplePage 1 2 "a.jpg")))) (List.mem_singleton.mpr rfl))
  have asked := (loaded.step (.send _ (.mark 0))).step (.send _ .loadMore)
  have handled := (asked.step (.take (.command (.mark 0)) rfl)).step
    (.take (.command .loadMore) rfl)
  have flagging := handled.step
    (.call (List.mem_cons_self .. : Task.flag patch ∈ [Task.flag patch, Task.fetch 2]))
  have fetching := flagging.step
    (.call (List.mem_singleton.mpr rfl : Task.fetch 2 ∈ [Task.fetch 2]))
  have missed := fetching.step (.take (.answered (.fetched 2 (.error .transport)))
    (List.mem_cons_of_mem _ (List.mem_singleton.mpr rfl)))
  have flagged := missed.step
    (.take (.answered (.flagged patch (.ok ()))) (List.mem_singleton.mpr rfl))
  have refreshing := flagged.step
    (.call (List.mem_singleton.mpr rfl : Task.refresh patch ∈ [Task.refresh patch]))
  have refreshed := refreshing.step
    (.take (.answered (.refreshed patch (.ok (samplePage 1 2 "a.jpg"))))
      (List.mem_singleton.mpr rfl))
  have hsynced := (refreshed.sync_is_barrier rfl).1 rfl _ _ rfl rfl rfl
  exact ⟨_, _, _, _, refreshed, rfl, rfl, rfl, rfl, rfl, rfl, hsynced⟩

end RankedSearch.Session
