import RankedSearch.Proofs.Session.Marks
import RankedSearch.Proofs.Session.Published

/-! # The last view of a session

A session that ends drops what is outstanding, and nothing settles after its last view. Closing
clears the counter of the marks that are on their way, and that is all it clears: a page that was
being fetched is shown as being fetched for ever, and a mark that was on its way is shown as it was
set, whether the service has it or not. -/
namespace RankedSearch.Session

variable {route : Query.Route} {history : List Event} {s : Running}

/-- Closing changes the last published view in two places. -/
theorem UpToDate.close_view (h : UpToDate route history s) :
    s.close.view = { s.view with closed := true, pendingUpdates := 0 } := by
  simp [Running.close, Running.publish, h.revision, h.view, viewOf]

/-- **What the last view shows.** It is the view before it, closed and with no mark on its way. A
page is still loading just if a fetch was outstanding. An item shows a mark that it was not
delivered with and that was not confirmed just if the last thing that wrote to it was a mark or a
failed update putting one back; if its updates did not overlap, this is so just if one was
outstanding. -/
theorem Run.last_view (r : Run route history s) :
    s.close.view = { s.view with closed := true, pendingUpdates := 0 } ∧
    (s.close.view.loadingPage = true ↔ ∃ page, .fetch page ∈ s.tasks) ∧
    ∀ index item, s.close.view.items[index]? = some item →
      ∃ d, (delivered history)[index]? = some d ∧ unmarked item = unmarked d ∧
        ((item.falseNegative = true → d.falseNegative = true ∨ .confirmed ∈ marks index history) ↔
          (lastWrite (marks index history) = some .marked ∨
              lastWrite (marks index history) = some (.rolledBack true) →
            d.falseNegative = true ∨ .confirmed ∈ marks index history)) ∧
        (Apart (marks index history) →
          (item.falseNegative = true ↔
            d.falseNegative = true ∨ .confirmed ∈ marks index history ∨ ¬ s.Settled index)) := by
  have hview := Run.upToDate r
  have hclose := hview.close_view
  have hloading : s.close.view.loadingPage = s.pager.loading := by rw [hclose, hview.view]; rfl
  have hitems : s.close.view.items = s.pager.items := by rw [hclose, hview.view]; rfl
  refine ⟨hclose, ?_, fun index item hx => ?_⟩
  · rw [hloading]
    exact (Run.accounted r).loading_iff
  · rw [hitems] at hx
    obtain ⟨d, hd, hsame, hshown, hupdates⟩ := Run.item_delivered r hx
    refine ⟨d, hd, hsame, ?_, fun ha => ?_⟩
    · rw [hshown]
      exact shown_justified_iff d.falseNegative (marks index history)
    · rw [hshown, hupdates.shown_iff_of_apart ha, Running.settled_iff]

/-- A session that is closed while a page is fetched and a mark is on its way. -/
theorem Run.last_view_outstanding :
    ∃ history s item, Run sampleRoute history s ∧
      s.tasks = [.flag ⟨0, "a.jpg", false⟩, .fetch 2] ∧
      s.close.view = { s.view with closed := true, pendingUpdates := 0 } ∧
      s.close.view.loadingPage = true ∧ s.close.view.items = [item] ∧
      marks 0 history = [.marked] ∧
      ∃ d, (delivered history)[0]? = some d ∧
        (Apart (marks 0 history) →
          (item.falseNegative = true ↔
            d.falseNegative = true ∨ .confirmed ∈ marks 0 history ∨ ¬ s.Settled 0)) := by
  have h : (Running.init sampleRoute).replay
      [.notified ⟨sampleRoute.id, .stage .ranked⟩,
        .answered (.fetched 1 (.ok (samplePage 1 2 "a.jpg"))),
        .command (.mark 0), .command .loadMore] = some (_, _) := rfl
  have r : Run sampleRoute _ _ := .of_replay h
  obtain ⟨hclose, hloading, hitems⟩ := Run.last_view r
  obtain ⟨d, hd, _, _, hmark⟩ := hitems 0 _ rfl
  have hfetch : ∃ page, Task.fetch page ∈ [.flag ⟨0, "a.jpg", false⟩, Task.fetch 2] := ⟨2, by simp⟩
  exact ⟨_, _, _, r, rfl, hclose, hloading.mpr hfetch, rfl, rfl, d, hd, hmark⟩

/-- The last view need not show a settled session: it may show a page as being fetched, and a mark
that was neither delivered nor confirmed. -/
theorem Run.last_view_need_not_be_settled :
    (∃ history s, Run sampleRoute history s ∧ s.close.view.loadingPage = true) ∧
    ∃ history s item d, Run sampleRoute history s ∧ s.close.view.items[0]? = some item ∧
      (delivered history)[0]? = some d ∧ item.falseNegative = true ∧ d.falseNegative = false ∧
      .confirmed ∉ marks 0 history := by
  constructor
  · have h : (Running.init sampleRoute).replay
        [.notified ⟨sampleRoute.id, .stage .ranked⟩] = some (_, _) := rfl
    exact ⟨_, _, .of_replay h, rfl⟩
  · have h : (Running.init sampleRoute).replay
        [.notified ⟨sampleRoute.id, .stage .ranked⟩,
          .answered (.fetched 1 (.ok (samplePage 1 1 "a.jpg"))),
          .command (.mark 0)] = some (_, _) := rfl
    exact ⟨_, _, _, _, .of_replay h, rfl, rfl, rfl, rfl, by decide⟩

end RankedSearch.Session
