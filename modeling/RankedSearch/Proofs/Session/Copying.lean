import RankedSearch.Proofs.Session.Marks
import RankedSearch.Proofs.Session.Published

/-! # Publishing copies the list only when it must

A session copies its list into the view if the revision of the list is another one than at the last
publication, and leaves the list of the view alone otherwise. The revision counts the changes of the
list one by one (`Run.revision_eq`), whichever operation makes them. So the view shows what a copy
at every publication would show, and the revisions may be kept in 64 bits as long as the changes can
be counted in 64 bits. -/
namespace RankedSearch.Session

/-! ## Changes of the list -/

/-- Whether an input puts a mark back. -/
def Input.putsBack : Input → Bool
  | .answered (.flagged _ (.error _)) => true
  | _ => false

/-- Whether a task is a mark that has just been set. -/
def Task.isMark : Task → Bool
  | .flag _ => true
  | _ => false

/-- How often the list was changed: by the pages that came, the marks that were put back and the
marks that were set. -/
def changes (history : List Event) : Nat :=
  (replies history).length + history.countP (·.input.putsBack) +
    (history.flatMap (·.started)).countP Task.isMark

theorem changes_snoc (history : List Event) (e : Event) :
    changes (history ++ [e]) = changes history +
      (e.input.reply?.toList.length + e.input.putsBack.toNat + e.started.countP Task.isMark) := by
  have hback : [e].countP (·.input.putsBack) = e.input.putsBack.toNat := by
    cases h : e.input.putsBack <;> simp [h]
  simp only [changes, replies_snoc, List.length_append, List.countP_append, List.flatMap_append,
    List.flatMap_singleton, hback]
  omega

theorem Input.putsBack_of_answer? {i : Input} (h : i.answer? = none) : i.putsBack = false := by
  cases i <;> first | rfl | cases h

theorem Input.putsBack_of_called {a : Answer} (h : a.task = .train ∨ a.task = .rank) :
    (Input.answered a).putsBack = false := by
  rcases Answer.of_called h with ⟨_, rfl⟩ | ⟨_, rfl⟩ <;> rfl

theorem Action.isMark_call {a : Action} {task : Task} (h : a.call? = some task) :
    task.isMark = false := by
  cases a <;> cases h <;> rfl

theorem Pager.revision_settle_confirmed (p : Pager) (patch : Patch)
    (precision : Option Precision) :
    (p.settle patch (.confirmed precision)).revision = p.revision := by
  cases precision <;> rfl

/-- An input raises the revision once for each change that it makes. -/
theorem Running.Reacts.revision_eq {s s' : Running} {i : Input} {started : List Task}
    (hr : s.Reacts i s' started) (hacc : Accounted s) (ha : s.Accepts i)
    (hnamed : ∀ patch ∈ patches s.tasks,
      s.pager.items[patch.index]?.map Item.path = some patch.path) :
    s'.pager.revision = s.pager.revision +
      (i.reply?.toList.length + i.putsBack.toNat + started.countP Task.isMark) := by
  have hquiet {i : Input} (hi : i.answer? = none) : i.reply? = none ∧ i.putsBack = false :=
    ⟨Input.reply?_of_answer? hi, Input.putsBack_of_answer? hi⟩
  cases hr with
  | shown _ hi _ => simp [hquiet hi]
  | heard _ hi _ _ => simp [hquiet hi]
  | call _ hi _ _ hc => simp [hquiet hi, Action.isMark_call hc]
  | fetch _ hi _ _ => simp [hquiet hi, Task.isMark]
  | flags v _ =>
    refine startFlags_induction
      (P := fun t started => t.pager.revision = s.pager.revision +
        ((Input.command _).reply?.toList.length + (Input.command _).putsBack.toNat +
          started.countP Task.isMark)) _ rfl fun t started index item _ ih => ?_
    have hnext : (t.flagging index item).pager.revision = t.pager.revision + 1 := rfl
    rw [hnext, ih, List.countP_append]
    rfl
  | called _ hcall => simp [Input.reply?_of_called hcall, Input.putsBack_of_called hcall]
  | loaded requested page =>
    rw [(Pager.completeFetch_eq page (hacc.requested_toNat ha)).2]
    rfl
  | missed | accepted => rfl
  | refused patch _ _ =>
    have hm : patch ∈ patches s.tasks := List.mem_filterMap.mpr ⟨_, ha, rfl⟩
    rw [Pager.revert_eq_setMark (hnamed patch hm)]
    rfl
  | confirmed patch _ precision => rw [Pager.revision_settle_confirmed]; rfl

/-- The revision of the list is the number of its changes. -/
theorem Run.revision_eq {route : Query.Route} {history : List Event} {s : Running}
    (r : Run route history s) : s.pager.revision = changes history := by
  induction r with
  | refl => rfl
  | @step history s i r h ih =>
    have hnamed := (Run.tracked r).named
    rw [changes_snoc, ← ih]
    exact (s.reacts i).revision_eq (Run.accounted r) h hnamed

/-! ## Figures -/

/-- The number of images looked at belongs to the precision figures. -/
def Pager.Coherent (p : Pager) : Prop := p.visited = (p.precision.map Precision.visited).getD 0

namespace Pager.Coherent

variable {p : Pager}

theorem congr {q : Pager} (h : p.Coherent) (hv : q.visited = p.visited)
    (hp : q.precision = p.precision) : q.Coherent := by
  rw [Coherent, hv, hp]
  exact h

theorem revert (h : p.Coherent) (patch : Patch) : (p.revert patch).Coherent := by
  rcases p.revert_eq_or patch with he | he <;> rw [he]
  · exact h.congr rfl rfl
  · exact h

theorem confirmed (h : p.Coherent) (patch : Patch) (precision : Option Precision) :
    (p.settle patch (.confirmed precision)).Coherent := by
  cases precision with
  | none => exact h
  | some precision => rfl

/-- A page brings both, or neither if it is dropped. -/
theorem completeFetch (h : p.Coherent) (requested : UInt32) (page : Page) :
    (p.completeFetch requested page).Coherent := by
  unfold Pager.completeFetch
  dsimp only
  split
  · exact h.congr rfl rfl
  · rfl

end Pager.Coherent

theorem Running.Reacts.coherent {s s' : Running} {i : Input} {started : List Task}
    (hr : s.Reacts i s' started) (h : s.pager.Coherent) : s'.pager.Coherent := by
  cases hr with
  | shown | heard | call | called | accepted => exact h
  | fetch | missed => exact h.congr rfl rfl
  | flags v _ =>
    exact startFlags_induction (P := fun t _ => t.pager.Coherent) _ h
      fun t _ index _ _ ih => ih.congr rfl rfl
  | loaded requested page => exact h.completeFetch ..
  | refused patch _ _ => exact h.revert patch
  | confirmed patch _ precision => exact h.confirmed ..

theorem Run.coherent {route : Query.Route} {history : List Event} {s : Running}
    (r : Run route history s) : s.pager.Coherent :=
  r.invariant (P := fun s => s.pager.Coherent) rfl (fun h _ hr => hr.coherent h) fun _ h => h

/-- There is a next page just if the cursor is not at the end. -/
theorem Pager.nextPage_isSome_iff {p : Pager} (h : p.loading = false) :
    p.nextPage.isSome = true ↔ p.currentPage = 0 ∨ p.currentPage < p.pageCount := by
  unfold nextPage
  rw [h, if_neg Bool.false_ne_true]
  by_cases hz : p.currentPage = 0
  · simp [hz]
  · by_cases hle : p.pageCount ≤ p.currentPage
    · simp [hz, hle, UInt32.not_lt.mpr hle]
    · simp [hz, hle, UInt32.not_le.mp hle]

theorem View.hasMorePages_iff (v : View) :
    v.hasMorePages = true ↔ v.currentPage = 0 ∨ v.currentPage < v.pageCount := by
  simp [hasMorePages]

/-! ## What is published -/

/-- Publishing by a session that keeps its two revisions in 64 bits. -/
def Running.publishInWords (s : Running) : Running :=
  { s.publish with
    view :=
      { s.publish.view with
        items :=
          if UInt64.ofNat s.pager.revision = UInt64.ofNat s.publishedRevision then s.view.items
          else s.pager.items } }

/-- As long as no revision takes more than 64 bits, nothing is lost by keeping no more. -/
theorem Running.publishInWords_eq {s : Running} (hp : s.publishedRevision < UInt64.size)
    (hr : s.pager.revision < UInt64.size) : s.publishInWords = s.publish := by
  have hsame : UInt64.ofNat s.pager.revision = UInt64.ofNat s.publishedRevision ↔
      s.pager.revision = s.publishedRevision := by
    rw [← UInt64.toNat_inj, UInt64.toNat_ofNat_of_lt' hr, UInt64.toNat_ofNat_of_lt' hp]
  simp only [publishInWords, publish, hsame]

/-- **A view shows the session as it is.** The list of every view that a running session publishes
is the list of its pager, item by item, although it is copied only if its revision has changed, and
keeping the revisions in 64 bits does no harm up to as many changes. Stage and requests are those of
the lifecycle, cursor and figures those of the pager, the number of images looked at is that of the
precision figures, and the view of a session that loads no page shows more pages just if there is a
next one to load. -/
theorem Run.publication_is_plain {route : Query.Route} {history : List Event} {s : Running}
    (r : Run route history s) :
    s.view.items = s.pager.items ∧
    s.view.stage = s.lifecycle.stage ∧
    s.view.trainingRequested = s.lifecycle.trainingFired ∧
    s.view.rankingRequested = s.lifecycle.rankingFired ∧
    s.view.currentPage = s.pager.currentPage ∧ s.view.pageCount = s.pager.pageCount ∧
    s.view.visited = s.pager.visited ∧ s.view.precision = s.pager.precision ∧
    s.view.visited = (s.view.precision.map Precision.visited).getD 0 ∧
    (s.view.loadingPage = false →
      (s.view.hasMorePages = true ↔ s.pager.nextPage.isSome = true)) ∧
    ∀ i, s.Accepts i → changes (history ++ [⟨i, (s.step i).2⟩]) < UInt64.size →
      (s.react i).1.publishInWords = (s.step i).1 := by
  have hshown := Run.upToDate r
  have hview := hshown.view
  have hstage : s.view.stage = s.lifecycle.stage := by rw [hview, hshown.stage]; rfl
  have hvisited : s.view.visited = (s.view.precision.map Precision.visited).getD 0 := by
    rw [hview]
    exact Run.coherent r
  refine ⟨by rw [hview]; rfl, hstage, by rw [hview]; rfl, by rw [hview]; rfl, by rw [hview]; rfl,
    by rw [hview]; rfl, by rw [hview]; rfl, by rw [hview]; rfl, hvisited, fun hl => ?_,
    fun i ha hfew => ?_⟩
  · have hidle : s.pager.loading = false := by rw [← (Run.published r).2]; exact hl
    rw [s.view.hasMorePages_iff, Pager.nextPage_isSome_iff hidle, hview]
    exact Iff.rfl
  · have hcount := Run.revision_eq (r.step i ha)
    have hnext : (s.react i).1.pager.revision = changes (history ++ [⟨i, (s.step i).2⟩]) := hcount
    have hlast : (s.react i).1.publishedRevision = s.pager.revision :=
      (s.reacts i).publishedRevision_eq.trans hshown.revision
    have hle : s.pager.revision ≤ (s.react i).1.pager.revision := by
      rw [hnext, changes_snoc, Run.revision_eq r]
      exact Nat.le_add_right _ _
    rw [← hnext] at hfew
    exact Running.publishInWords_eq (hlast ▸ Nat.lt_of_le_of_lt hle hfew) hfew

/-- A list that is changed several times between two publications: a page comes, a bulk mark flags
both of its distractors, and one of the two is put back. -/
theorem Run.publication_is_plain_marked :
    ∃ history s, Run sampleRoute history s ∧ changes history = 4 ∧
      s.view.items.map Item.falseNegative = [false, true] ∧ s.view.items = s.pager.items ∧
      (s.react (.command .markTailDistractors)).1.publishInWords =
        (s.step (.command .markTailDistractors)).1 := by
  let distractor (path : String) : Item := { path, score := .zero, isDistractor := true }
  let page : Page := { samplePage 1 1 "" with items := [distractor "a.jpg", distractor "b.jpg"] }
  have h : (Running.init sampleRoute).replay
      [.notified ⟨sampleRoute.id, .stage .ranked⟩, .answered (.fetched 1 (.ok page)),
        .command .markTailDistractors,
        .answered (.flagged ⟨0, "a.jpg", false⟩ (.error .transport))] = some (_, _) := rfl
  have r : Run sampleRoute _ _ := .of_replay h
  obtain ⟨hitems, _, _, _, _, _, _, _, _, _, hwords⟩ := Run.publication_is_plain r
  exact ⟨_, _, r, rfl, rfl, hitems, hwords (.command .markTailDistractors) trivial (by decide)⟩

end RankedSearch.Session
