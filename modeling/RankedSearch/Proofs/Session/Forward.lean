import RankedSearch.Proofs.Session.Course
import RankedSearch.Proofs.Session.LastView

/-! # Views only move forward

Whoever looks at a session sees some of its views, and acts on one that may be out of date. What a
view says of the past stays true: pages are only appended, so that a place in the list belongs to
one item for ever. The step lemma is read off the closed form of a view (`Run.upToDate`) and of the
list (`Run.paged`); that it holds of any two views, the closed one included, is an induction over
the course of the session. -/
namespace RankedSearch.Session

theorem path_of_unmarked {x y : Item} (h : unmarked x = unmarked y) : x.path = y.path :=
  (congrArg Item.path h : (unmarked x).path = (unmarked y).path)

/-- What a later view keeps of an earlier one. Items are kept but for their marks. -/
structure View.Precedes (v w : View) : Prop where
  items : v.items.map unmarked <+: w.items.map unmarked
  currentPage : v.currentPage ≤ w.currentPage
  commandsHandled : v.commandsHandled ≤ w.commandsHandled
  trainingRequested : v.trainingRequested = true → w.trainingRequested = true
  rankingRequested : v.rankingRequested = true → w.rankingRequested = true
  collectionFinished : v.collectionFinished = true → w.collectionFinished = true
  closed : v.closed = true → w.closed = true
  lastError : v.lastError.isSome = true → w.lastError.isSome = true
  lastProcessed : v.lastProcessed.isSome = true → w.lastProcessed.isSome = true

namespace View.Precedes

variable {u v w : View}

theorem refl (v : View) : v.Precedes v where
  items := List.prefix_rfl
  currentPage := UInt32.le_refl _
  commandsHandled := Nat.le_refl _
  trainingRequested := id
  rankingRequested := id
  collectionFinished := id
  closed := id
  lastError := id
  lastProcessed := id

theorem trans (h : u.Precedes v) (h' : v.Precedes w) : u.Precedes w where
  items := h.items.trans h'.items
  currentPage := UInt32.le_trans h.currentPage h'.currentPage
  commandsHandled := Nat.le_trans h.commandsHandled h'.commandsHandled
  trainingRequested := h'.trainingRequested ∘ h.trainingRequested
  rankingRequested := h'.rankingRequested ∘ h.rankingRequested
  collectionFinished := h'.collectionFinished ∘ h.collectionFinished
  closed := h'.closed ∘ h.closed
  lastError := h'.lastError ∘ h.lastError
  lastProcessed := h'.lastProcessed ∘ h.lastProcessed

/-- Closing a view and clearing its counter takes nothing back. -/
theorem close (v : View) : v.Precedes { v with closed := true, pendingUpdates := 0 } :=
  { refl v with closed := fun _ => rfl }

/-- An item of the earlier view is at its place in the later one. -/
theorem item (h : v.Precedes w) {index : Nat} {x : Item} (hx : v.items[index]? = some x) :
    ∃ y, w.items[index]? = some y ∧ unmarked y = unmarked x := by
  obtain ⟨rest, hrest⟩ := h.items
  have hlt : index < (v.items.map unmarked).length := by
    rw [List.length_map]
    exact (List.getElem?_eq_some_iff.mp hx).1
  have hplace : (w.items.map unmarked)[index]? = (v.items.map unmarked)[index]? := by
    rw [← hrest, List.getElem?_append_left hlt]
  rw [List.getElem?_map, List.getElem?_map, hx] at hplace
  exact Option.map_eq_some_iff.mp hplace

end View.Precedes

/-! ## One input -/

theorem lastOf_isSome_snoc {α : Type} {told : Input → Option α} {history : List Event} (e : Event)
    (h : (lastOf told history).isSome = true) : (lastOf told (history ++ [e])).isSome = true := by
  rw [lastOf_snoc]
  cases told e.input <;> simp [h]

section

variable {route : Query.Route} {history : List Event} {s : Running}

/-- A latch that has closed stays closed over an input. -/
theorem Running.Reacts.fired {s s' : Running} {i : Input} {started : List Task}
    (hr : s.Reacts i s' started) {a : Action} (h : s.lifecycle.fired a = true) :
    s'.lifecycle.fired a = true := by
  rw [hr.lifecycle_eq]
  cases s.trigger? i with
  | none => exact h
  | some t => exact (s.lifecycle.apply_fired t a).mpr (Or.inl h)

/-- The cursor never goes back: a page that comes is one after it. -/
theorem Run.currentPage_le (r : Run route history s) {i : Input} (h : s.Accepts i) :
    s.pager.currentPage ≤ (s.step i).1.pager.currentPage := by
  rw [(Run.paged r).currentPage, (Run.paged (r.step i h)).currentPage, replies_snoc]
  cases hi : i.reply? with
  | none => simp
  | some reply =>
    obtain ⟨requested, page⟩ := reply
    have hm : Task.fetch requested ∈ s.tasks := by
      unfold Input.reply? at hi
      split at hi <;> cases hi
      exact h
    have hnext := (Run.accounted r).requested_toNat hm
    rw [(Run.paged r).currentPage] at hnext
    have hle := UInt32.le_iff_toNat_le.mp (Pager.le_max_requested page.number requested)
    simp only [Option.toList_some, lastNumber, List.getLast?_append, List.getLast?_singleton,
      Option.some_or, Option.map_some, Option.getD_some, Reply.number] at hnext ⊢
    exact UInt32.le_iff_toNat_le.mpr (by omega)

theorem Run.precedes_step (r : Run route history s) {i : Input} (h : s.Accepts i) :
    s.view.Precedes (s.step i).1.view := by
  have hv := (Run.upToDate r).view
  have hw := (Run.upToDate (r.step i h)).view
  have hpage := Run.currentPage_le r h
  have hlatch (a : Action) := (s.reacts i).fired (a := a)
  rw [hv, hw]
  refine
    { items := ?_
      currentPage := hpage
      commandsHandled := ?_
      trainingRequested := hlatch .beginTraining
      rankingRequested := hlatch .beginRanking
      collectionFinished := ?_
      closed := id
      lastError := lastOf_isSome_snoc _
      lastProcessed := lastOf_isSome_snoc _ }
  · show s.pager.items.map unmarked <+: (s.step i).1.pager.items.map unmarked
    rw [(Run.paged r).items, (Run.paged (r.step i h)).items, replies_snoc, List.flatMap_append,
      List.map_append]
    exact List.prefix_append _ _
  · simp [viewOf, commands_snoc]
  · simp only [viewOf, List.any_append, Bool.or_eq_true]
    exact Or.inl

theorem Run.precedes_close (r : Run route history s) : s.view.Precedes s.close.view := by
  rw [(Run.upToDate r).close_view]
  exact .close s.view

/-! ## Marks and their updates -/

theorem Running.react_mark {index : Nat} {item : Item} (hx : s.pager.items[index]? = some item) :
    (s.react (.command (.mark index))).2 = [.flag (patchOf index item)] ∧
      (s.react (.command (.mark index))).1.pager = s.pager.setMark index true := by
  simp only [react, onCommand, startFlag, Pager.mark, hx, Option.map_some, begin, patchOf, and_self]

/-- A command marks the item at its place, and sends off its path. -/
theorem Run.mark_item (r : Run route history s) {index : Nat} {item : Item}
    (hx : s.view.items[index]? = some item) :
    (s.step (.command (.mark index))).2 = [.flag ⟨index, item.path, item.falseNegative⟩] ∧
      (s.step (.command (.mark index))).1.view.items =
        s.view.items.modify index fun x => { x with falseNegative := true } := by
  have hnext := (Run.upToDate (r.step (.command (.mark index)) trivial)).view
  rw [hnext]
  rw [(Run.upToDate r).view] at hx ⊢
  obtain ⟨hstarted, hpager⟩ := Running.react_mark hx
  refine ⟨hstarted, ?_⟩
  show (s.react (.command (.mark index))).1.pager.items = _
  rw [hpager]
  rfl

/-- An update that is outstanding names the item at its place, and is put back if it fails. -/
theorem Run.patch_named (r : Run route history s) {patch : Patch}
    (hm : .flag patch ∈ s.tasks ∨ .refresh patch ∈ s.tasks) :
    s.view.items[patch.index]?.map Item.path = some patch.path ∧
      s.pager.revert patch = s.pager.setMark patch.index patch.previous := by
  have hpatch : patch ∈ patches s.tasks := by
    rcases hm with hm | hm <;> exact List.mem_filterMap.mpr ⟨_, hm, rfl⟩
  have hnamed := (Run.tracked r).named patch hpatch
  refine ⟨?_, Pager.revert_eq_setMark hnamed⟩
  rw [(Run.upToDate r).view]
  exact hnamed

end

/-! ## Any two views -/

variable {phrase : Query.Phrase} {log : List Happening} {p : Phase}

/-- The views of a course follow one another, and the session as it stands comes after all. -/
theorem Course.views_precede (c : Course phrase log p) :
    (views log).Pairwise View.Precedes ∧
      ∀ l, p = .live l → ∀ v ∈ views log, v.Precedes l.session.view := by
  induction c with
  | start => exact ⟨.nil, fun _ hp => by cases hp⟩
  | @step log es p q c h ih =>
    obtain ⟨hpairs, hlive⟩ := ih
    cases h with
    | unstarted | started | refused | release | released =>
      exact ⟨by simpa [Happening.view?] using hpairs, fun _ hp => by cases hp⟩
    | accepted id =>
      cases c.reads
      refine ⟨by simp [submitted, Happening.view?], fun _ hp v hv => ?_⟩
      cases hp
      have hfirst : v = (Running.init ⟨id, phrase⟩).view := by
        simpa [submitted, Happening.view?] using hv
      exact hfirst ▸ .refl v
    | send l _ | leave l | @call l _ _ =>
      refine ⟨by simpa [Happening.view?] using hpairs, fun _ hp v hv => ?_⟩
      cases hp
      exact hlive l rfl v (by simpa [Happening.view?] using hv)
    | @take l i hi =>
      obtain ⟨id, body, _, h⟩ := c.reads
      have hnew : ∀ v ∈ views log, v.Precedes (l.session.step i).1.view :=
        fun v hv => (hlive l rfl v hv).trans (Run.precedes_step h.run (h.accepts hi))
      refine ⟨?_, fun _ hp v hv => ?_⟩
      · simpa [Happening.view?, List.pairwise_append] using ⟨hpairs, hnew⟩
      · cases hp
        rw [views_append, List.mem_append] at hv
        rcases hv with hv | hv
        · exact hnew v hv
        · have hlast : v = (l.session.step i).1.view := by simpa [Happening.view?] using hv
          exact hlast ▸ .refl v
    | @close l _ _ =>
      obtain ⟨id, body, _, h⟩ := c.reads
      have hlast : ∀ v ∈ views log, v.Precedes l.session.close.view :=
        fun v hv => (hlive l rfl v hv).trans (Run.precedes_close h.run)
      refine ⟨?_, fun _ hp => by cases hp⟩
      simpa [Happening.view?, List.pairwise_append] using ⟨hpairs, hlast⟩

/-- **Views only move forward, and a place in the list keeps its meaning.** Of any two views of a
session the later one has the items of the earlier one at their places, marks aside, and takes back
nothing else either. So a command that marks the item at a place of an earlier view marks that very
item, whenever it is taken in. Every update that is outstanding names the item that each view shows
at its place, and if it fails what it replaced is put back there. -/
theorem Course.views_move_forward (c : Course phrase log p) :
    (views log).Pairwise View.Precedes ∧
    ∀ l, p = .live l →
      (∀ v ∈ views log, ∀ index item, v.items[index]? = some item →
        ∃ now, l.session.view.items[index]? = some now ∧ unmarked now = unmarked item ∧
          (l.session.step (.command (.mark index))).2 =
            [.flag ⟨index, item.path, now.falseNegative⟩] ∧
          (l.session.step (.command (.mark index))).1.view.items =
            l.session.view.items.modify index fun x => { x with falseNegative := true }) ∧
      ∀ patch, .flag patch ∈ l.session.tasks ∨ .refresh patch ∈ l.session.tasks →
        l.session.view.items[patch.index]?.map Item.path = some patch.path ∧
        (∀ v ∈ views log, ∀ item, v.items[patch.index]? = some item → item.path = patch.path) ∧
        l.session.pager.revert patch = l.session.pager.setMark patch.index patch.previous := by
  obtain ⟨hpairs, hlive⟩ := c.views_precede
  refine ⟨hpairs, ?_⟩
  rintro l rfl
  obtain ⟨id, body, _, h⟩ := c.reads
  refine ⟨fun v hv index item hx => ?_, fun patch hm => ?_⟩
  · obtain ⟨now, hnow, hsame⟩ := (hlive l rfl v hv).item hx
    have hpath := path_of_unmarked hsame
    obtain ⟨hstarted, hitems⟩ := Run.mark_item h.run hnow
    exact ⟨now, hnow, hsame, hpath ▸ hstarted, hitems⟩
  · obtain ⟨hnamed, hreverts⟩ := Run.patch_named h.run hm
    refine ⟨hnamed, fun v hv item hx => ?_, hreverts⟩
    obtain ⟨now, hnow, hsame⟩ := (hlive l rfl v hv).item hx
    have hpath := path_of_unmarked hsame
    rw [hnow] at hnamed
    exact hpath.symm.trans (Option.some.inj hnamed)

/-- A user looks at the view of a page of one item. Meanwhile the item was marked, and the service
has sent a second page under the number of a third. -/
theorem Course.views_move_forward_renumbered :
    ∃ log l v, Course sampleRoute.phrase log (.live l) ∧ (views log)[2]? = some v ∧
      v.items.map Item.path = ["a.jpg"] ∧ v.currentPage = 1 ∧
      l.session.view.items.map Item.path = ["a.jpg", "b.jpg"] ∧ l.session.view.currentPage = 3 ∧
      (views log).Pairwise View.Precedes ∧
      (l.session.step (.command (.mark 0))).2 = [.flag ⟨0, "a.jpg", true⟩] ∧
      l.session.tasks = [.flag ⟨0, "a.jpg", false⟩] ∧
      l.session.pager.revert ⟨0, "a.jpg", false⟩ = l.session.pager.setMark 0 false := by
  let patch : Patch := ⟨0, "a.jpg", false⟩
  have starting : Course sampleRoute.phrase _ _ := .start
  have accepted := (starting.step (.started sampleRoute.id)).step (.accepted _)
  have ranked := accepted.step (.take (.notified ⟨sampleRoute.id, .stage .ranked⟩) trivial)
  have fetching := ranked.step (.call (List.mem_singleton.mpr rfl : Task.fetch 1 ∈ [Task.fetch 1]))
  have loaded := fetching.step
    (.take (.answered (.fetched 1 (.ok (samplePage 1 3 "a.jpg")))) (List.mem_singleton.mpr rfl))
  have asked := (loaded.step (.send _ .loadMore)).step (.send _ (.mark 0))
  have handled := (asked.step (.take (.command .loadMore) rfl)).step
    (.take (.command (.mark 0)) rfl)
  have fetching := handled.step
    (.call (List.mem_cons_self .. : Task.fetch 2 ∈ [Task.fetch 2, Task.flag patch]))
  have appended := fetching.step
    (.take (.answered (.fetched 2 (.ok (samplePage 3 3 "b.jpg")))) (List.mem_singleton.mpr rfl))
  obtain ⟨hpairs, hlive⟩ := appended.views_move_forward
  obtain ⟨hmarks, hpatches⟩ := hlive _ rfl
  obtain ⟨now, hnow, _, hstarted, _⟩ := hmarks _ (List.mem_of_getElem? (i := 2) rfl) 0 _ rfl
  cases hnow
  exact ⟨_, _, _, appended, rfl, rfl, rfl, rfl, rfl, hpairs, hstarted, rfl,
    (hpatches patch (Or.inl (List.mem_singleton.mpr rfl))).2.2⟩

end RankedSearch.Session
