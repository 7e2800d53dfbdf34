import RankedSearch.Proofs.Session.RankedGate
import RankedSearch.Proofs.Session.Stall

/-! # Nothing is asked of a ranking before there is one

Three ways lead to the ranking of a query: the pages that are loaded, the marks, and the reading of
fresh figures after a mark. Only the handle looks at the stage, and only for the pages that its user
asks for. For the rest it is the session that has nothing to ask about: marks are set on items,
items come with pages, and the first page is asked for on the report that the query is ranked. -/
namespace RankedSearch.Session

open RankedSearch.Service (Request)

/-- The calls for pages and for marks come after the query was started and reported as ranked. -/
def RankedFirst (log : List Happening) : Prop :=
  Throughout (fun before x => ∀ r, x = .called r → r.kind = .page ∨ r.kind = .flag →
    ∃ id, .returned .start (.ok id) ∈ before ∧ r.query? = some id ∧
      Reported id (events before)) log

theorem Task.isWork_of_kind {task : Task} {id : Query.Id}
    (h : (task.request id).kind = .page ∨ (task.request id).kind = .flag) :
    task.isWork = true := by
  cases task with
  | train | rank => rcases h with h | h <;> cases h
  | fetch _ | flag _ | refresh _ => rfl

/-! ## Sessions without a ranking -/

/-- A session that has no items, and nothing on its way that could bring or touch any. -/
structure Untouched (s : Running) : Prop where
  items : s.pager.items = []
  idle : ∀ t ∈ s.tasks, t.isWork = false

/-- Only the report that the query is ranked and the request for a page lead on to the ranking. -/
theorem Untouched.react {s s' : Running} {i : Input} {started : List Task} (h : Untouched s)
    (ha : s.Accepts i) (hr : s.Reacts i s' started) (hc : i ≠ .command .loadMore)
    (hn : i ≠ .notified ⟨s.query, .stage .ranked⟩) : Untouched s' := by
  have hidle {t : Task} (hm : t ∈ s.tasks) (ht : t.isWork = true) : False := by
    rw [h.idle t hm] at ht
    cases ht
  cases hr with
  | shown | heard => exact ⟨h.items, h.idle⟩
  | call v _ _ _ hcall =>
    obtain ⟨hupdate, hfetch⟩ := Action.call?_eq_some hcall
    refine ⟨h.items, fun t hm => ?_⟩
    rcases List.mem_append.mp hm with hm | hm
    · exact h.idle t hm
    · rw [List.mem_singleton.mp hm, Task.isWork, hupdate, hfetch]
      rfl
  | fetch v _ hl _ =>
    rcases hl with ⟨t, ht, hfetch⟩ | ⟨hcommand, _⟩
    · have hreport := (s.lifecycle.apply_fetchFirstPage t).mp (by rw [hfetch])
      rw [hreport.2] at ht
      exact absurd (Running.trigger?_eq_report_iff.mp ht) hn
    · exact absurd hcommand hc
  | flags v _ =>
    -- there is nothing to mark
    refine Running.startFlags_induction (P := fun t _ => Untouched t) _ ⟨h.items, h.idle⟩
      fun t _ index item hx ih => ?_
    rw [ih.items] at hx
    cases hx
  | called => exact ⟨h.items, fun t hm => h.idle t (List.mem_of_mem_erase hm)⟩
  | loaded | missed | accepted | refused | confirmed => exact (hidle ha rfl).elim

/-! ## Courses without a ranking -/

/-- What is true of a session that runs until its query is reported as ranked. -/
structure Unranked (log : List Happening) (l : Live) : Prop where
  untouched : Untouched l.session
  queue : .loadMore ∉ l.queue
  views : ∀ v ∈ Session.views log, v.isRanked = false

section

variable {phrase : Query.Phrase} {log : List Happening} {p : Phase} {l : Live}

theorem Unranked.take {id : Query.Id} {body : List Happening} {i : Input} (h : Unranked log l)
    (ht : Told phrase id body l) (hi : l.Offers i)
    (hnot : ¬ Reported id (events body ++ [⟨i, (l.session.step i).2⟩])) :
    Unranked (log ++ [.took ⟨i, (l.session.step i).2⟩, .published (l.session.step i).1.view])
      (l.take i) := by
  have hnext := Run.upToDate (ht.run.step i (ht.accepts hi))
  have hcommand : i ≠ .command .loadMore := by
    rintro rfl
    exact h.queue (List.mem_of_mem_head? hi)
  have hreport : i ≠ .notified ⟨l.session.query, .stage .ranked⟩ := by
    rintro rfl
    exact hnot ((reported_snoc ..).mpr (Or.inr (by rw [ht.query_eq])))
  have huntouched := h.untouched.react (ht.accepts hi) (l.session.reacts i) hcommand hreport
  refine ⟨⟨huntouched.items, huntouched.idle⟩, fun hm => h.queue ?_, fun v hv => ?_⟩
  · cases i with
    | command c => exact List.mem_of_mem_tail hm
    | notified _ | channelClosed | deadlinePassed | answered _ => exact hm
  · rw [views_append, List.mem_append] at hv
    rcases hv with hv | hv
    · exact h.views v hv
    · have hlast : v = (l.session.step i).1.view := by simpa [Happening.view?] using hv
      rw [hlast, ← Bool.not_eq_true, View.isRanked_iff, hnext.view]
      exact fun hstage => hnot (reported_of_stageOf hstage)

/-- A session whose user waits for a ranked view has no ranking before the report. -/
theorem Course.unranked (c : Course phrase log p) (hg : Gated log) (hp : p = .live l) :
    Reported l.session.query (events log) ∨ Unranked log l := by
  induction c generalizing l with
  | start => cases hp
  | @step log es p q c h ih =>
    have hpast := (throughout_append.mp hg).1
    cases h with
    | unstarted | started | refused | close | release | released => cases hp
    | accepted id =>
      cases c.reads
      cases hp
      refine Or.inr ⟨⟨rfl, by simp [Running.init]⟩, by simp, fun v hv => ?_⟩
      have hfirst : v = (Running.init ⟨id, phrase⟩).view := by
        simpa [submitted, Happening.view?] using hv
      rw [hfirst]
      rfl
    | send l cmd =>
      cases hp
      have hviews := (Gated.send_iff.mp hg).2
      refine (ih hpast rfl).imp (fun hreported => by simpa [Happening.event?] using hreported)
        fun hun => { untouched := hun.untouched, queue := ?_, views := ?_ }
      · have hcmd : cmd ≠ .loadMore := fun he => by
          obtain ⟨v, hv, hranked⟩ := hviews he
          rw [hun.views v hv] at hranked
          cases hranked
        simpa [hcmd.symm] using hun.queue
      · simpa [Happening.view?] using hun.views
    | leave l =>
      cases hp
      exact (ih hpast rfl).imp (fun hreported => by simpa [Happening.event?] using hreported)
        fun hun => { hun with views := by simpa [Happening.view?] using hun.views }
    | @call l task hm =>
      cases hp
      exact (ih hpast rfl).imp (fun hreported => by simpa [Happening.event?] using hreported)
        fun hun => { hun with views := by simpa [Happening.view?] using hun.views }
    | @take l i hi =>
      cases hp
      obtain ⟨id, body, hlog, ht⟩ := c.reads
      have hevents : events log = events body := by rw [hlog, events_opened]
      have hquery : (l.take i).session.query = id :=
        (Run.upToDate (ht.run.step i (ht.accepts hi))).query_eq
      have hnow : events (log ++ [.took ⟨i, (l.session.step i).2⟩,
          .published (l.session.step i).1.view]) =
            events body ++ [⟨i, (l.session.step i).2⟩] := by
        simp [hevents, Happening.event?]
      rw [hquery, hnow]
      refine or_iff_not_imp_left.mpr fun hnot => ?_
      have hun := (ih hpast rfl).resolve_left fun hreported => hnot <| by
        rw [ht.query_eq, hevents] at hreported
        exact (reported_snoc ..).mpr (Or.inl hreported)
      exact hun.take ht hi hnot

/-- The calls of a course whose user waits for a ranked view. -/
theorem Course.ranked_first (c : Course phrase log p) (hg : Gated log) : RankedFirst log := by
  induction c with
  | start =>
    refine throughout_singleton.mpr fun r hr hkind => ?_
    cases hr
    rcases hkind with hkind | hkind <;> cases hkind
  | @step log es p q c h ih =>
    have hpast := (throughout_append.mp hg).1
    refine throughout_append.mpr ⟨ih hpast, ?_⟩
    cases h with
    | @call l task hm =>
      refine throughout_singleton.mpr fun r hr hkind => ?_
      cases hr
      obtain ⟨id, body, hlog, ht⟩ := c.reads
      have hwork := Task.isWork_of_kind hkind
      rw [List.append_nil, ht.query_eq]
      refine ⟨id, by simp [hlog, opened, submitted], task.request_query? id, ?_⟩
      rcases c.unranked hpast rfl with hreported | hun
      · rwa [ht.query_eq] at hreported
      · have htask := ht.tasks.mem_iff.mpr (List.mem_append_left _ hm)
        rw [hun.untouched.idle task htask] at hwork
        cases hwork
    | unstarted | started | refused | accepted | send | leave | take | close | release
      | released =>
      exact throughout_of_forall (by simp [Request.kind])

end

/-- **No ranking traffic before the query is ranked.** If more pages are asked for only after a view
has shown the query as ranked, as the handle of a session sees to it, then every call for a page,
fresh figures included, and every call for a mark comes after a report that this very query is
ranked. So do those that a service has received, whatever the user does with the session. -/
theorem Course.ranking_calls_follow_report (phrase : Query.Phrase) :
    (∀ log p, Course phrase log p → Gated log → RankedFirst log) ∧
    ∀ (σ α : Type) [QueryService σ] (record : Record σ α) (origin : σ) (t : Timeline σ),
      Timeline.Reached origin phrase t →
        ∃ log p, Course phrase log p ∧ Gated log ∧ RankedFirst log ∧
          (views log).getLast? = some t.view ∧
          record.seen t.service = record.seen origin ++ (calls log).flatMap record.note := by
  refine ⟨fun log p c hg => c.ranked_first hg, fun σ α _ record origin t hreached => ?_⟩
  obtain ⟨log, p, c, hg, hview, hseen⟩ := hreached.gated record
  exact ⟨log, p, c, hg, c.ranked_first hg, hview, hseen⟩

/-- A user who marks an item while another query is ranked, and asks for a second page later on. -/
theorem Course.ranking_calls_follow_report_marked :
    ∃ log p, Course sampleRoute.phrase log p ∧ Gated log ∧
      sent log = [.mark 0, .loadMore] ∧
      calls log = [.start, .submit sampleRoute.id sampleRoute.phrase, .page sampleRoute.id 1,
        .page sampleRoute.id 2] ∧
      RankedFirst log ∧
      ∃ (t : Timeline Service.Script) (later : List Happening),
        Timeline.Reached emptyScript sampleRoute.phrase t ∧ RankedFirst later ∧
        t.service.log = calls later := by
  have starting : Course sampleRoute.phrase _ _ := .start
  have accepted := (starting.step (.started sampleRoute.id)).step (.accepted _)
  have foreign := (accepted.step (.send _ (.mark 0))).step
    (.take (.notified ⟨⟨"q-8"⟩, .stage .ranked⟩) trivial)
  have marked := foreign.step (.take (.command (.mark 0)) rfl)
  have ranked := marked.step (.take (.notified ⟨sampleRoute.id, .stage .ranked⟩) trivial)
  have fetching := ranked.step (.call (List.mem_singleton.mpr rfl : Task.fetch 1 ∈ [Task.fetch 1]))
  have loaded := fetching.step
    (.take (.answered (.fetched 1 (.ok (samplePage 1 2 "a.jpg")))) (List.mem_singleton.mpr rfl))
  have asked := (loaded.step (.send _ .loadMore)).step (.take (.command .loadMore) rfl)
  have again := asked.step (.call (List.mem_singleton.mpr rfl : Task.fetch 2 ∈ [Task.fetch 2]))
  obtain ⟨hcourse, htimeline⟩ := Course.ranking_calls_follow_report sampleRoute.phrase
  have hstart : Timeline.start emptyScript sampleRoute.phrase ⟨20000, 32⟩ = .ok _ := rfl
  have reached : Timeline.Reached emptyScript sampleRoute.phrase (lateReport _) :=
    ((((Timeline.Reached.start hstart).notify _).pass 1).notify _).pass 1
  obtain ⟨later, _, _, _, hlater, _, hlog⟩ := htimeline _ _ Timeline.scriptLog _ _ reached
  refine ⟨_, _, again, ?gated, rfl, rfl, hcourse _ _ again ?gated, _, later, reached, hlater, ?_⟩
  · refine Gated.append (Gated.append (Gated.send_iff.mpr ⟨.of_not_mem ?_, fun _ => ?_⟩) ?_) ?_
    · simp
    · exact ⟨_, List.mem_of_getLast? rfl, rfl⟩
    · simp
    · simp
  · exact hlog.trans (List.flatMap_singleton' _)

end RankedSearch.Session
