import RankedSearch.Proofs.Session.Driven
import RankedSearch.Proofs.Session.Published
import RankedSearch.Service.Script

/-! # Who may ask for more pages

A session asks for pages on behalf of its user as long as its view shows the query as ranked. The
view shows the stage that was reported last, whatever was reported before, so a late report of an
earlier stage locks a ranked query until it is reported as ranked again. The latches of the
lifecycle have no part in this. -/
namespace RankedSearch.Session

open RankedSearch.Service (Script)

theorem lastOf_append {α : Type} (told : Input → Option α) (first second : List Event) :
    lastOf told (first ++ second) = (lastOf told second).or (lastOf told first) := by
  unfold lastOf
  rw [List.filterMap_append, List.getLast?_append]

/-- Reports after a stage was reported decide what is shown; without any it is still that stage. -/
theorem stageOf_append_cons (id : Query.Id) (first second : List Event) {e : Event} {stage : Stage}
    (he : e.input.stage? id = some stage) :
    stageOf id (first ++ e :: second) = (lastOf (Input.stage? id) second).getD stage := by
  have hfirst : lastOf (Input.stage? id) (first ++ [e]) = some stage := by
    rw [lastOf_snoc, he, Option.some_or]
  rw [List.append_cons, stageOf, lastOf_append, hfirst]
  cases lastOf (Input.stage? id) second <;> rfl

theorem View.isRanked_iff (v : View) : v.isRanked = true ↔ v.stage = .ranked := by
  unfold isRanked Stage.isTerminal
  cases v.stage <;> decide

namespace Timeline

variable {σ : Type} [QueryService σ]

/-- A command is refused because the session is closed, and for no other reason. -/
theorem send_ne_notRanked (t : Timeline σ) (c : Command) (id : Query.Id) :
    (t.send c).2 ≠ .error (.notRanked id) := by
  obtain ⟨u, _, ⟨_, _, hsent⟩ | hsent⟩ := t.send_cases c
  · simp [hsent]
  · simp [hsent]

theorem loadMore_eq_notRanked_iff (t : Timeline σ) (id : Query.Id) :
    t.loadMore.2 = .error (.notRanked id) ↔ t.view.stage ≠ .ranked ∧ t.view.query = id := by
  have hranked := t.view.isRanked_iff
  unfold loadMore
  split
  · rename_i hr
    have hs : ¬ (t.view.stage ≠ .ranked ∧ t.view.query = id) := fun h => h.1 (hranked.mp hr)
    exact iff_of_false (t.send_ne_notRanked .loadMore id) hs
  · rename_i hr
    have hs : t.view.stage ≠ .ranked := fun he => hr (hranked.mpr he)
    simp [hs]

end Timeline

section

variable {σ : Type} [QueryService σ] {route : Query.Route} {s : Running} {before later : List Event}
  {started : List Task}

/-- **When a ranked query is locked.** After a query was reported as ranked, whoever sees the view
of its session is refused more pages just if another stage was reported since and is the last that
was. -/
theorem Run.loadMore_refused_iff
    (r : Run route (before ++ ⟨.notified ⟨route.id, .stage .ranked⟩, started⟩ :: later) s)
    {t : Timeline σ} (ht : t.view = s.view) :
    t.loadMore.2 = .error (.notRanked route.id) ↔
      ∃ stage, lastOf (Input.stage? route.id) later = some stage ∧ stage ≠ .ranked := by
  have hview := (Run.upToDate r).view
  have hreport : (Input.notified ⟨route.id, .stage .ranked⟩).stage? route.id = some .ranked := by
    simp [Input.stage?, Input.news?]
  have hstage : t.view.stage = (lastOf (Input.stage? route.id) later).getD .ranked := by
    rw [ht, hview]
    exact stageOf_append_cons route.id before later hreport
  have hquery : t.view.query = route.id := by rw [ht, hview]; rfl
  rw [Timeline.loadMore_eq_notRanked_iff, hstage]
  cases lastOf (Input.stage? route.id) later <;> simp [hquery]

end

/-- A service that has no ranking to give. -/
def emptyScript : Script := { id := sampleRoute.id, replies := fun _ => [] }

/-- The session of a query that is reported as ranked, and as trained a millisecond later. -/
def lateReport (t : Timeline Script) : Timeline Script :=
  (((t.notify ⟨sampleRoute.id, .stage .ranked⟩).1.pass 1).notify
    ⟨sampleRoute.id, .stage .trained⟩).1.pass 1

/-- A query that was ranked does not stay open: a late report that it is trained locks it. -/
theorem Run.loadMore_may_be_refused_again :
    ¬ ∀ (script : Script) (route : Query.Route) (t : Timeline Script) (s : Running)
        (before later : List Event) (started : List Task),
        Timeline.Reached script route.phrase t → t.status = .running s →
        Run route (before ++ ⟨.notified ⟨route.id, .stage .ranked⟩, started⟩ :: later) s →
        t.loadMore.2 ≠ .error (.notRanked route.id) := by
  intro claim
  have h : (Running.init sampleRoute).replay
      [.notified ⟨sampleRoute.id, .stage .ranked⟩,
        .answered (.fetched 1 (.error (.notReady sampleRoute.id.text))),
        .notified ⟨sampleRoute.id, .stage .trained⟩,
        .answered (.ranked (.ok ()))] = some (_, _) := rfl
  have hstart : Timeline.start emptyScript sampleRoute.phrase ⟨20000, 32⟩ = .ok _ := rfl
  have reached : Timeline.Reached emptyScript sampleRoute.phrase (lateReport _) :=
    ((((Timeline.Reached.start hstart).notify _).pass 1).notify _).pass 1
  exact claim _ sampleRoute _ _ [] _ _ reached rfl (.of_replay h) rfl

/-- A query that was ranked, heard of late as trained, and as ranked again. -/
theorem Run.loadMore_refused_iff_reported_again :
    ∃ history s, Run sampleRoute history s ∧
      (∀ t : Timeline Script, t.view = s.view → t.loadMore.2 ≠ .error (.notRanked sampleRoute.id)) ∧
      history.filterMap (·.input.stage? sampleRoute.id) = [.ranked, .trained, .ranked] := by
  have h : (Running.init sampleRoute).replay
      [.notified ⟨sampleRoute.id, .stage .ranked⟩, .notified ⟨sampleRoute.id, .stage .trained⟩,
        .notified ⟨sampleRoute.id, .stage .ranked⟩] = some (_, _) := rfl
  have r : Run sampleRoute ([] ++ _ :: _) _ := .of_replay h
  refine ⟨_, _, r, fun t ht hrefused => ?_, rfl⟩
  obtain ⟨stage, hlast, hne⟩ := (Run.loadMore_refused_iff r ht).mp hrefused
  cases hlast
  exact hne rfl

end RankedSearch.Session
