import RankedSearch.CommandLine.Run
import RankedSearch.Proofs.Session.Driven
import RankedSearch.Proofs.Session.RankedGate
import RankedSearch.Proofs.Session.Stall
import RankedSearch.Proofs.Session.Waiting

/-! # Waiting for the first page

A run of the program waits until a view tells of the first page, and gives up if it cannot come any
more: the query is ranked, nothing is loading and an error is on show. The error need not be that of
a fetch, as training may have failed long before. That the wait blames no fetch too early, and does
not go on in vain, follows from what a session that stalls has behind it (`Course.stalled`). -/
namespace RankedSearch.CommandLine

open RankedSearch.Session

/-- The first page is blamed in a view that stalls and shows an error, and in no other. -/
theorem firstPage_eq_firstPage_iff (v : View) (message : String) :
    firstPage v = some (.error (.firstPage message)) ↔
      v.closed = false ∧ v.Stalled ∧ v.lastError = some message := by
  have hcursor : v.currentPage = 0 ↔ ¬ 1 ≤ v.currentPage := by
    rw [UInt32.le_iff_toNat_le, ← UInt32.toNat_inj]
    simp only [UInt32.toNat_zero, UInt32.toNat_one]
    omega
  have hstalled : v.Stalled ↔
      v.stage = .ranked ∧ ¬ 1 ≤ v.currentPage ∧ v.loadingPage = false := by
    rw [← hcursor]
    exact ⟨fun ⟨hs, hc, hl⟩ => ⟨hs, hc, hl⟩, fun ⟨hs, hc, hl⟩ => ⟨hs, hc, hl⟩⟩
  rw [hstalled]
  unfold firstPage
  by_cases hpage : 1 ≤ v.currentPage
  · simp [hpage]
  · cases hclosed : v.closed with
    | true => simp [hpage]
    | false =>
      cases v.lastError with
      | none => simp [hpage]
      | some told => simp [hpage, and_assoc]

section

variable {σ : Type} [QueryService σ] (t : Timeline σ) (seconds : UInt64)

theorem waitForFirstPage_fst :
    (waitForFirstPage t seconds).1 = (t.await firstPage (some (seconds.toNat * 1000))).1 := by
  unfold waitForFirstPage
  split <;> rename_i h <;> rw [h]

theorem waitForFirstPage_eq_firstPage_iff (message : String) :
    (waitForFirstPage t seconds).2 = .error (.firstPage message) ↔
      firstPage (waitForFirstPage t seconds).1.view = some (.error (.firstPage message)) := by
  rw [waitForFirstPage_fst, ← Timeline.await_found_iff]
  unfold waitForFirstPage
  split <;> rename_i h <;> rw [h] <;> simp

end

/-- A wait for the first page leads on to a view of the session. -/
theorem waitForFirstPage_course {σ : Type} [QueryService σ] {origin : σ} {phrase : Query.Phrase}
    {t : Timeline σ} (h : Timeline.Reached origin phrase t) (seconds : UInt64) :
    ∃ log p, Course phrase log p ∧
      (views log).getLast? = some (waitForFirstPage t seconds).1.view := by
  have hwait : Timeline.AtRest (Record.blank σ) origin (.since phrase [])
      (t.await firstPage (some (seconds.toNat * 1000))).1 :=
    h.atRest.elapses (Timeline.elapses_await ..)
  obtain ⟨_, log, p, hfollows⟩ := hwait
  rw [waitForFirstPage_fst]
  exact ⟨log, p, hfollows.course, hfollows.view⟩

/-- A view that stalls has a failed fetch behind it, and says enough to blame the first page. -/
theorem firstPage_of_stalled {phrase : Query.Phrase} {log : List Happening} {p : Phase} {v : View}
    (c : Course phrase log p) (hv : (views log).getLast? = some v) (ho : v.closed = false)
    (hs : v.Stalled) :
    FetchFailed (events log) ∧
      ∃ message, v.lastError = some message ∧
        firstPage v = some (.error (.firstPage message)) := by
  obtain ⟨hfailed, herror⟩ := c.stalled hv ho hs
  obtain ⟨message, hmessage⟩ := Option.isSome_iff_exists.mp herror
  have hblamed := (firstPage_eq_firstPage_iff v message).mpr ⟨ho, hs, hmessage⟩
  exact ⟨hfailed, message, hmessage, hblamed⟩

/-- **A ranked query never stalls silently.** Whenever a session that runs has last published a view
of a ranked query in which no page has come and none is on its way, a fetch has failed and an error
is on show. Such a view ends the wait for the first page, at once if it is there when the wait
begins, and the wait blames the first page in no other view, so that a fetch has failed by then. -/
theorem stall_is_blamed (phrase : Query.Phrase) :
    (∀ log p v, Course phrase log p → (views log).getLast? = some v → v.closed = false →
      (v.Stalled → FetchFailed (events log) ∧
        ∃ message, v.lastError = some message ∧
          firstPage v = some (.error (.firstPage message))) ∧
      ∀ message, firstPage v = some (.error (.firstPage message)) →
        v.Stalled ∧ FetchFailed (events log)) ∧
    ∀ (σ : Type) [QueryService σ] (origin : σ) (t : Timeline σ) (seconds : UInt64),
      Timeline.Reached origin phrase t →
        (t.view.closed = false → t.view.Stalled →
          ∃ message, t.view.lastError = some message ∧
            waitForFirstPage t seconds = (t, .error (.firstPage message))) ∧
        ∃ log p, Course phrase log p ∧
          (views log).getLast? = some (waitForFirstPage t seconds).1.view ∧
          (∀ message, (waitForFirstPage t seconds).2 = .error (.firstPage message) →
            FetchFailed (events log)) ∧
          ((waitForFirstPage t seconds).1.view.closed = false →
            (waitForFirstPage t seconds).1.view.Stalled →
              ∃ message, (waitForFirstPage t seconds).2 = .error (.firstPage message)) := by
  refine ⟨fun log p v c hv ho => ⟨firstPage_of_stalled c hv ho, fun message hblamed => ?_⟩,
    fun σ _ origin t seconds hreached => ⟨fun ho hs => ?_, ?_⟩⟩
  · obtain ⟨_, hs, _⟩ := (firstPage_eq_firstPage_iff v message).mp hblamed
    exact ⟨hs, (c.stalled hv ho hs).1⟩
  · obtain ⟨_, log, p, c, hv, _⟩ := hreached.course (Record.blank σ)
    obtain ⟨_, message, hmessage, hblamed⟩ := firstPage_of_stalled c hv ho hs
    refine ⟨message, hmessage, ?_⟩
    unfold waitForFirstPage
    rw [Timeline.await_of_found hblamed]
  · obtain ⟨log, p, c, hv⟩ := waitForFirstPage_course hreached seconds
    refine ⟨log, p, c, hv, fun message hblamed => ?_, fun ho hs => ?_⟩
    · rw [waitForFirstPage_eq_firstPage_iff] at hblamed
      obtain ⟨ho, hs, _⟩ := (firstPage_eq_firstPage_iff _ message).mp hblamed
      exact (c.stalled hv ho hs).1
    · obtain ⟨_, message, _, hblamed⟩ := firstPage_of_stalled c hv ho hs
      exact ⟨message, (waitForFirstPage_eq_firstPage_iff t seconds message).mpr hblamed⟩

/-- A service that fails to train and, some time after it was asked for a page, has none to give. -/
def untrainable : Service.Script :=
  { id := sampleRoute.id
    replies := fun
      | .train => [{ fault := some .transport }]
      | .page => [{ delay := 10 }]
      | _ => [] }

/-- The wait blames nothing while training alone has failed, and then the first page. Who waits once
more is told so at once. -/
theorem stall_is_blamed_untrained :
    ∃ t log p message, Timeline.Reached untrainable sampleRoute.phrase t ∧
      t.view.lastError = some (Service.Fault.message .transport) ∧ firstPage t.view = none ∧
      Course sampleRoute.phrase log p ∧
      (views log).getLast? = some (waitForFirstPage t 5).1.view ∧
      (waitForFirstPage t 5).1.view.Stalled ∧
      (waitForFirstPage t 5).1.view.lastError = some message ∧
      (waitForFirstPage t 5).2 = .error (.firstPage message) ∧ FetchFailed (events log) ∧
      ∃ again, waitForFirstPage (t.pass 20) 5 = (t.pass 20, .error (.firstPage again)) := by
  have hstart : Timeline.start untrainable sampleRoute.phrase ⟨20000, 32⟩ = .ok _ := rfl
  have untrained := ((Timeline.Reached.start hstart).notify
    ⟨sampleRoute.id, .stage .dataCollectionComplete⟩).pass 1
  have reached := untrained.notify ⟨sampleRoute.id, .stage .ranked⟩
  obtain ⟨hviews, hwaits⟩ := stall_is_blamed sampleRoute.phrase
  obtain ⟨_, log, p, c, hview, _, hblames⟩ := hwaits _ _ _ 5 reached
  obtain ⟨message, hblamed⟩ := hblames rfl ⟨rfl, rfl, rfl⟩
  obtain ⟨hfailed, shown, hshown, _⟩ := (hviews log p _ c hview rfl).1 ⟨rfl, rfl, rfl⟩
  obtain ⟨again, _, hagain⟩ := (hwaits _ _ _ 5 (reached.pass 20)).1 rfl ⟨rfl, rfl, rfl⟩
  cases hshown
  cases hblamed
  exact ⟨_, log, p, _, reached, rfl, rfl, c, hview, ⟨rfl, rfl, rfl⟩, rfl, rfl, hfailed, again,
    hagain⟩

end RankedSearch.CommandLine
