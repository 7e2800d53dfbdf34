import RankedSearch.Proofs.Session.MarkHistory
import RankedSearch.Proofs.Session.Paging

/-! # Marks and what becomes of them

In a run each item goes through the machine of `Updates`: the commands that mark it and the answers
to its updates are its events, and the patches of the updates that are outstanding are what is
saved. So an item ends as the service has it exactly as `Updates.converges_iff` says. -/
namespace RankedSearch.Session

/-! ## The events of an item -/

def Task.patch? : Task → Option Patch
  | .flag patch | .refresh patch => some patch
  | _ => none

/-- The patches of the updates that are outstanding. -/
def patches (tasks : List Task) : List Patch := tasks.filterMap Task.patch?

/-- The update of an item that an input settles. -/
def Input.settled (index : Nat) : Input → List MarkEvent
  | .answered (.flagged patch (.error _)) =>
    if patch.index = index then [.rolledBack patch.previous] else []
  | .answered (.refreshed patch _) => if patch.index = index then [.confirmed] else []
  | _ => []

/-- The mark of an item that a task sends off. -/
def Task.marks (index : Nat) : Task → List MarkEvent
  | .flag patch => if patch.index = index then [.marked] else []
  | _ => []

/-- What happens to the mark of the item at a place. -/
def marks (index : Nat) (history : List Event) : List MarkEvent :=
  history.flatMap fun e => e.input.settled index ++ e.started.flatMap (·.marks index)

/-- The items that the pages brought, as they came. -/
def delivered (history : List Event) : List Item := (replies history).flatMap (·.2.items)

theorem marks_snoc (index : Nat) (history : List Event) (i : Input) (started : List Task) :
    marks index (history ++ [⟨i, started⟩]) =
      marks index history ++ (i.settled index ++ started.flatMap (·.marks index)) := by
  simp [marks]

/-! ## Items and their machines -/

/-- What the patches of an item put back. -/
def saved (index : Nat) (ps : List Patch) : List Bool :=
  (ps.filter (·.index = index)).map (·.previous)

theorem saved_cons (index : Nat) (patch : Patch) (ps : List Patch) :
    saved index (patch :: ps) =
      if patch.index = index then patch.previous :: saved index ps else saved index ps := by
  unfold saved
  by_cases h : patch.index = index <;> simp [h]

theorem saved_perm {ps qs : List Patch} (h : ps.Perm qs) (index : Nat) :
    (saved index ps).Perm (saved index qs) := (h.filter _).map _

/-- Every item of a list is where its machine is, and every patch is for an item of the list. -/
structure Tracked (came : List Item) (events : Nat → List MarkEvent) (items : List Item)
    (ps : List Patch) : Prop where
  flags : ∀ index, items[index]?.map Item.falseNegative =
    came[index]?.map fun d => shown d.falseNegative (events index)
  updates : ∀ index d, came[index]? = some d →
    Updates d.falseNegative (events index) (saved index ps)
  fresh : ∀ index, came[index]? = none → events index = []
  named : ∀ patch ∈ ps, items[patch.index]?.map Item.path = some patch.path

namespace Tracked

variable {came : List Item} {events events' : Nat → List MarkEvent} {items items' : List Item}
  {ps ps' : List Patch} {patch : Patch}

theorem perm (h : Tracked came events items ps) (hp : ps.Perm ps') :
    Tracked came events items ps' :=
  ⟨h.flags, fun index d hd => (h.updates index d hd).perm (saved_perm hp index), h.fresh,
    fun patch hm => h.named patch (hp.mem_iff.mpr hm)⟩

/-- A patch is for an item that came. -/
theorem came_of_mem (h : Tracked came events items ps) (hm : patch ∈ ps) :
    ∃ d, came[patch.index]? = some d := by
  have hn := h.named patch hm
  have hf := h.flags patch.index
  cases hi : items[patch.index]? with
  | none => rw [hi] at hn; cases hn
  | some item =>
    rw [hi] at hf
    cases hc : came[patch.index]? with
    | none => rw [hc] at hf; cases hf
    | some d => exact ⟨d, rfl⟩

/-- A mark that is set or put back shows at its place and nowhere else. -/
theorem flags_modify (h : Tracked came events items ps) {index : Nat} {e : MarkEvent} {value : Bool}
    (hw : ∀ b, e.write b = value)
    (he : ∀ j, events' j = events j ++ if index = j then [e] else []) (j : Nat) :
    (items.modify index fun item => { item with falseNegative := value })[j]?.map
        Item.falseNegative =
      came[j]?.map fun d => shown d.falseNegative (events' j) := by
  have hf := h.flags j
  rw [List.getElem?_modify, he]
  by_cases hj : index = j
  · simp only [if_pos hj, shown_snoc, hw]
    revert hf
    cases items[j]? <;> cases came[j]? <;> simp
  · simp [hj, hf]

theorem path_modify (items : List Item) (index j : Nat) (value : Bool) :
    (items.modify index fun item => { item with falseNegative := value })[j]?.map Item.path =
      items[j]?.map Item.path := by
  rw [List.getElem?_modify]
  by_cases hj : index = j <;> cases items[j]? <;> simp [hj]

/-- Nothing happens to an item that has not come. -/
theorem fresh_snoc (h : Tracked came events items ps) {index : Nat} {e : MarkEvent} {d : Item}
    (hd : came[index]? = some d)
    (he : ∀ j, events' j = events j ++ if index = j then [e] else []) (j : Nat)
    (hj : came[j]? = none) : events' j = [] := by
  have hne : index ≠ j := by rintro rfl; rw [hd] at hj; cases hj
  rw [he, h.fresh j hj, if_neg hne, List.append_nil]

theorem mark (h : Tracked came events items ps) {index : Nat} {item : Item}
    (hx : items[index]? = some item)
    (he : ∀ j, events' j = events j ++ if index = j then [.marked] else []) :
    Tracked came events' (items.modify index fun item => { item with falseNegative := true })
      (Running.patchOf index item :: ps) := by
  have hf := h.flags index
  rw [hx] at hf
  obtain ⟨d, hd, hshown⟩ := Option.map_eq_some_iff.mp hf.symm
  refine ⟨h.flags_modify (fun _ => rfl) he, fun j c hc => ?_, h.fresh_snoc hd he, ?_⟩
  · rw [saved_cons, he]
    by_cases hj : index = j
    · subst hj
      cases hd.symm.trans hc
      simpa [Running.patchOf, hshown] using (h.updates index d hd).mark
    · simpa [Running.patchOf, hj] using h.updates j c hc
  · intro patch hm
    rw [path_modify]
    rcases List.mem_cons.mp hm with rfl | hm
    · simp [Running.patchOf, hx]
    · exact h.named patch hm

theorem rollBack (h : Tracked came events items (patch :: ps))
    (he : ∀ j, events' j = events j ++
      if patch.index = j then [.rolledBack patch.previous] else []) :
    Tracked came events'
      (items.modify patch.index fun item => { item with falseNegative := patch.previous }) ps := by
  obtain ⟨d, hd⟩ := h.came_of_mem (List.mem_cons_self ..)
  refine ⟨h.flags_modify (fun _ => rfl) he, fun j c hc => ?_, h.fresh_snoc hd he, ?_⟩
  · have hu := h.updates j c hc
    rw [saved_cons] at hu
    rw [he]
    by_cases hj : patch.index = j
    · simp only [if_pos hj] at hu ⊢
      exact hu.rollBack
    · simpa [hj] using hu
  · intro other hm
    rw [path_modify]
    exact h.named other (List.mem_cons_of_mem _ hm)

theorem confirm (h : Tracked came events items (patch :: ps))
    (he : ∀ j, events' j = events j ++ if patch.index = j then [.confirmed] else []) :
    Tracked came events' items ps := by
  obtain ⟨d, hd⟩ := h.came_of_mem (List.mem_cons_self ..)
  refine ⟨fun j => ?_, fun j c hc => ?_, h.fresh_snoc hd he,
    fun other hm => h.named other (List.mem_cons_of_mem _ hm)⟩
  · rw [h.flags j, he]
    by_cases hj : patch.index = j <;> simp [hj, MarkEvent.write]
  · have hu := h.updates j c hc
    rw [saved_cons] at hu
    rw [he]
    by_cases hj : patch.index = j
    · simp only [if_pos hj] at hu ⊢
      exact hu.confirm
    · simpa [hj] using hu

theorem length_eq (h : Tracked came events items ps) : items.length = came.length := by
  apply Nat.le_antisymm <;> refine List.getElem?_eq_none_iff.mp ?_
  · simpa using h.flags came.length
  · simpa using (h.flags items.length).symm

/-- A page brings items that nothing has happened to. -/
theorem load (h : Tracked came events items ps) (more : List Item) :
    Tracked (came ++ more) events (items ++ more) ps := by
  have hnew : ∀ j, came[j]? = none → saved j ps = [] := by
    intro j hj
    refine List.map_eq_nil_iff.mpr (List.filter_eq_nil_iff.mpr fun patch hm hp => ?_)
    obtain ⟨d, hd⟩ := h.came_of_mem hm
    rw [of_decide_eq_true hp, hj] at hd
    cases hd
  refine ⟨fun j => ?_, fun j d hd => ?_, fun j hj => h.fresh j ?_, fun patch hm => ?_⟩
  · by_cases hj : j < came.length
    · rw [List.getElem?_append_left hj, List.getElem?_append_left (h.length_eq ▸ hj), h.flags]
    · have hnone := List.getElem?_eq_none (Nat.not_lt.mp hj)
      rw [List.getElem?_append_right (Nat.not_lt.mp hj), h.fresh j hnone,
        List.getElem?_append_right (h.length_eq ▸ Nat.not_lt.mp hj), h.length_eq]
      rfl
  · by_cases hj : j < came.length
    · rw [List.getElem?_append_left hj] at hd
      exact h.updates j d hd
    · have hnone := List.getElem?_eq_none (Nat.not_lt.mp hj)
      rw [h.fresh j hnone, hnew j hnone]
      exact .start
  · rw [List.getElem?_eq_none_iff, List.length_append] at hj
    exact List.getElem?_eq_none (by omega)
  · have hn := h.named patch hm
    cases hi : items[patch.index]? with
    | none => rw [hi] at hn; cases hn
    | some item =>
      rw [List.getElem?_append_left (List.getElem?_eq_some_iff.mp hi).1]
      exact hn

end Tracked

/-! ## What an input does to them -/

theorem patches_erase {t : Task} {tasks : List Task} (h : t ∈ tasks) :
    (patches tasks).Perm (t.patch?.toList ++ patches (tasks.erase t)) := by
  refine ((List.perm_cons_erase h).filterMap _).trans ?_
  cases ht : t.patch? <;> simp [patches, ht]

theorem patches_snoc (tasks : List Task) (t : Task) :
    (patches (tasks ++ [t])).Perm (t.patch?.toList ++ patches tasks) := by
  rw [patches, List.filterMap_append]
  refine List.perm_append_comm.trans ?_
  cases ht : t.patch? <;> simp [patches, ht]

/-- A mark is put back if its item is where it was. -/
theorem Pager.revert_eq_setMark {p : Pager} {patch : Patch}
    (h : p.items[patch.index]?.map Item.path = some patch.path) :
    p.revert patch = p.setMark patch.index patch.previous := by
  obtain ⟨item, hi, hp⟩ := Option.map_eq_some_iff.mp h
  simp [revert, hi, hp]

theorem Input.settled_of_answer? {i : Input} (h : i.answer? = none) (index : Nat) :
    i.settled index = [] := by
  cases i <;> first | rfl | cases h

theorem Input.settled_of_called {a : Answer} (h : a.task = .train ∨ a.task = .rank) (index : Nat) :
    (Input.answered a).settled index = [] := by
  rcases Answer.of_called h with ⟨_, rfl⟩ | ⟨_, rfl⟩ <;> rfl

theorem Action.patch?_call {a : Action} {task : Task} (h : a.call? = some task) :
    task.patch? = none ∧ ∀ index, task.marks index = [] := by
  cases a <;> cases h <;> exact ⟨rfl, fun _ => rfl⟩

namespace Tracked

variable {came : List Item} {events events' : Nat → List MarkEvent}

/-- Marks that are started one after the other are events of their items. -/
theorem startFlags {s : Running} (h : Tracked came events s.pager.items (patches s.tasks))
    (indices : List Nat) :
    Tracked came (fun j => events j ++ (s.startFlags indices).2.flatMap (·.marks j))
      (s.startFlags indices).1.pager.items (patches (s.startFlags indices).1.tasks) := by
  refine Running.startFlags_induction (P := fun s started =>
    Tracked came (fun j => events j ++ started.flatMap (·.marks j)) s.pager.items
      (patches s.tasks)) indices (by simpa using h) fun s started index item hx ih => ?_
  refine (ih.mark hx fun j => ?_).perm (patches_snoc s.tasks (.flag _)).symm
  simp [Task.marks, Running.patchOf]

theorem react {s s' : Running} {i : Input} {started : List Task}
    (h : Tracked came events s.pager.items (patches s.tasks)) (ha : s.Accepts i)
    (hr : s.Reacts i s' started) :
    Tracked (came ++ i.reply?.toList.flatMap s.pager.brought)
      (fun j => events j ++ (i.settled j ++ started.flatMap (·.marks j)))
      s'.pager.items (patches s'.tasks) := by
  have hquiet {i : Input} (hi : i.answer? = none) : i.reply? = none ∧ ∀ j, i.settled j = [] :=
    ⟨Input.reply?_of_answer? hi, Input.settled_of_answer? hi⟩
  cases hr with
  | shown v hi _ => simpa [hquiet hi] using h
  | heard v hi _ _ => simpa [hquiet hi] using h
  | call v hi _ _ hc =>
    obtain ⟨hp, hm⟩ := Action.patch?_call hc
    simpa [hquiet hi, patches, hp, hm] using h
  | fetch v hi _ _ =>
    simpa [hquiet hi, Task.marks] using h.perm (patches_snoc s.tasks (.fetch _)).symm
  | @flags c v _ =>
    have := startFlags (s := { s with view := v }) h (s.marked c)
    simpa [Input.reply?, Input.settled] using this
  | @called a v hcall =>
    have hp : a.task.patch? = none := by rcases hcall with hc | hc <;> rw [hc] <;> rfl
    have := h.perm (patches_erase ha)
    rw [hp] at this
    simpa [Input.reply?_of_called hcall, Input.settled_of_called hcall] using this
  | loaded requested page =>
    have := (h.perm (patches_erase (t := .fetch requested) ha)).load
      (s.pager.brought (requested, page))
    rw [Pager.items_completeFetch]
    simpa [Input.reply?, Input.settled, Task.patch?] using this
  | missed requested fault v =>
    have := h.perm (patches_erase (t := .fetch requested) ha)
    simpa [Input.reply?, Input.settled, Task.patch?] using this
  | accepted patch u =>
    have := h.perm (patches_erase (t := .flag patch) ha)
    simpa [Input.reply?, Input.settled, Task.marks] using
      this.perm (patches_snoc _ (.refresh patch)).symm
  | refused patch fault v =>
    have := h.perm (patches_erase (t := .flag patch) ha)
    rw [Pager.revert_eq_setMark (this.named patch (List.mem_cons_self ..))]
    simpa [Input.reply?, Input.settled, Pager.setMark] using this.rollBack fun _ => rfl
  | confirmed patch result precision =>
    have := h.perm (patches_erase (t := .refresh patch) ha)
    rw [Pager.items_settle_confirmed]
    simpa [Input.reply?, Input.settled] using this.confirm fun _ => rfl

end Tracked

theorem Run.tracked {route : Query.Route} {history : List Event} {s : Running}
    (r : Run route history s) :
    Tracked (delivered history) (fun index => marks index history) s.pager.items
      (patches s.tasks) := by
  induction r with
  | refl => exact ⟨fun _ => rfl, fun _ _ h => by simp [delivered, replies] at h, fun _ _ => rfl,
      fun _ h => by simp [patches, Running.init] at h⟩
  | @step history s i r h ih =>
    have hstep := ih.react h (s.reacts i)
    rw [(Run.accounted r).brought_eq h] at hstep
    simp only [delivered, replies_snoc, List.flatMap_append, marks_snoc]
    exact hstep

/-- An item is what its page brought, and its mark is where its machine is. -/
theorem Run.item_delivered {route : Query.Route} {history : List Event} {s : Running}
    (r : Run route history s) {index : Nat} {item : Item}
    (hx : s.pager.items[index]? = some item) :
    ∃ d, (delivered history)[index]? = some d ∧ unmarked item = unmarked d ∧
      item.falseNegative = shown d.falseNegative (marks index history) ∧
      Updates d.falseNegative (marks index history) (saved index (patches s.tasks)) := by
  have h := Run.tracked r
  have hflag := h.flags index
  rw [hx] at hflag
  obtain ⟨d, hd, hshown⟩ := Option.map_eq_some_iff.mp hflag.symm
  have hsame := congrArg (·[index]?) (Run.paged r).items
  have hcame : ((replies history).flatMap (·.2.items))[index]? = some d := hd
  simp only [List.getElem?_map, hx, hcame, Option.map_some, Option.some.injEq] at hsame
  exact ⟨d, hd, hsame, hshown.symm, h.updates index d hd⟩

/-! ## Where marks end -/

/-- No update of the item at a place is outstanding. -/
def Running.Settled (s : Running) (index : Nat) : Prop :=
  ∀ patch, .flag patch ∈ s.tasks ∨ .refresh patch ∈ s.tasks → patch.index ≠ index

theorem Running.settled_of_tasks {s : Running} (h : s.tasks = []) (index : Nat) :
    s.Settled index := by
  intro patch hm
  simp [h] at hm

theorem Running.Settled.saved_eq_nil {s : Running} {index : Nat} (h : s.Settled index) :
    saved index (patches s.tasks) = [] := by
  refine List.map_eq_nil_iff.mpr (List.filter_eq_nil_iff.mpr fun patch hm => ?_)
  obtain ⟨t, ht, hp⟩ := List.mem_filterMap.mp hm
  cases t with
  | flag _ => cases hp; simpa using h patch (Or.inl ht)
  | refresh _ => cases hp; simpa using h patch (Or.inr ht)
  | train | rank | fetch _ => cases hp

theorem Running.settled_iff {s : Running} {index : Nat} :
    s.Settled index ↔ saved index (patches s.tasks) = [] := by
  refine ⟨Settled.saved_eq_nil, fun hnone patch hm he => ?_⟩
  have hpatch : patch ∈ patches s.tasks := by
    rcases hm with hm | hm <;> exact List.mem_filterMap.mpr ⟨_, hm, rfl⟩
  have hsaved : patch.previous ∈ saved index (patches s.tasks) :=
    List.mem_map.mpr ⟨patch, List.mem_filter.mpr ⟨hpatch, decide_eq_true he⟩, rfl⟩
  rw [hnone] at hsaved
  cases hsaved

/-- **Where a mark ends.** Once no update of an item is outstanding, the item is marked just if its
page brought it marked or an update of it was confirmed, exactly when the last thing that wrote to
its mark was not a failed update putting back something else. This is so if its updates do not
overlap, and if none of them fails. -/
theorem Run.marks_converge_iff {route : Query.Route} {history : List Event} {s : Running}
    (r : Run route history s) {index : Nat} {item : Item}
    (hx : s.pager.items[index]? = some item) (hs : s.Settled index) :
    ∃ d, (delivered history)[index]? = some d ∧ unmarked item = unmarked d ∧
      ((item.falseNegative = true ↔ d.falseNegative = true ∨ .confirmed ∈ marks index history) ↔
        ∀ previous, lastWrite (marks index history) = some (.rolledBack previous) →
          (previous = true ↔ d.falseNegative = true ∨ .confirmed ∈ marks index history)) ∧
      (Apart (marks index history) →
        (item.falseNegative = true ↔
          d.falseNegative = true ∨ .confirmed ∈ marks index history)) ∧
      ((∀ previous, .rolledBack previous ∉ marks index history) →
        (item.falseNegative = true ↔
          d.falseNegative = true ∨ .confirmed ∈ marks index history)) := by
  have h := Run.tracked r
  have hf := h.flags index
  rw [hx] at hf
  obtain ⟨d, hd, hshown⟩ := Option.map_eq_some_iff.mp hf.symm
  have hu := h.updates index d hd
  rw [hs.saved_eq_nil] at hu
  have hsame : unmarked item = unmarked d := by
    have := congrArg (·[index]?) (Run.paged r).items
    simpa [List.getElem?_map, hx, show ((replies history).flatMap (·.2.items))[index]? = some d
      from hd] using this
  rw [← hshown]
  refine ⟨d, hd, hsame, hu.converges_iff, fun ha => (hu.of_apart ha).1 rfl, fun hn => ?_⟩
  exact hu.converges_iff.mpr fun previous hl => absurd (mem_of_lastWrite hl).1 (hn previous)

/-- An item is marked twice at once; the first update is confirmed, and the second fails and puts
back the mark of the first. -/
theorem Run.marks_converge_iff_overlapping :
    ∃ history s item, Run sampleRoute history s ∧ s.pager.items[0]? = some item ∧ s.Settled 0 ∧
      item.falseNegative = true ∧
      marks 0 history = [.marked, .marked, .confirmed, .rolledBack true] ∧
      ∃ d, (delivered history)[0]? = some d ∧ unmarked item = unmarked d ∧
        (item.falseNegative = true ↔ d.falseNegative = true ∨ .confirmed ∈ marks 0 history) := by
  have h : (Running.init sampleRoute).replay
      [.notified ⟨sampleRoute.id, .stage .ranked⟩,
        .answered (.fetched 1 (.ok (samplePage 1 1 "a.jpg"))),
        .command (.mark 0), .command (.mark 0),
        .answered (.flagged ⟨0, "a.jpg", false⟩ (.ok ())),
        .answered (.refreshed ⟨0, "a.jpg", false⟩ (.error .transport)),
        .answered (.flagged ⟨0, "a.jpg", true⟩ (.error .transport))] = some (_, _) := rfl
  have r : Run sampleRoute _ _ := .of_replay h
  obtain ⟨d, hd, hsame, hiff, _⟩ := Run.marks_converge_iff r rfl
    (Running.settled_of_tasks rfl 0)
  refine ⟨_, _, _, r, rfl, Running.settled_of_tasks rfl 0, rfl, rfl, d, hd, hsame,
    hiff.mpr fun previous hl => ?_⟩
  cases hl
  exact ⟨fun _ => Or.inr (by decide), fun _ => rfl⟩

/-- An item that is marked twice at once need not end as the service has it. If the second update is
confirmed and the first fails after it, the item shows no mark although the service has one; if both
fail in the order in which they were sent, it shows one that the service does not have. -/
theorem Run.marks_need_not_converge :
    (∃ history s item d, Run sampleRoute history s ∧ s.pager.items[0]? = some item ∧ s.Settled 0 ∧
      (delivered history)[0]? = some d ∧ .confirmed ∈ marks 0 history ∧
      item.falseNegative = false) ∧
    ∃ history s item d, Run sampleRoute history s ∧ s.pager.items[0]? = some item ∧ s.Settled 0 ∧
      (delivered history)[0]? = some d ∧ d.falseNegative = false ∧
      .confirmed ∉ marks 0 history ∧ item.falseNegative = true := by
  constructor
  · have h : (Running.init sampleRoute).replay
        [.notified ⟨sampleRoute.id, .stage .ranked⟩,
          .answered (.fetched 1 (.ok (samplePage 1 1 "a.jpg"))),
          .command (.mark 0), .command (.mark 0),
          .answered (.flagged ⟨0, "a.jpg", true⟩ (.ok ())),
          .answered (.refreshed ⟨0, "a.jpg", true⟩ (.error .transport)),
          .answered (.flagged ⟨0, "a.jpg", false⟩ (.error .transport))] = some (_, _) := rfl
    exact ⟨_, _, _, _, .of_replay h, rfl, Running.settled_of_tasks rfl 0, rfl, by decide,
      rfl⟩
  · have h : (Running.init sampleRoute).replay
        [.notified ⟨sampleRoute.id, .stage .ranked⟩,
          .answered (.fetched 1 (.ok (samplePage 1 1 "a.jpg"))),
          .command (.mark 0), .command (.mark 0),
          .answered (.flagged ⟨0, "a.jpg", false⟩ (.error .transport)),
          .answered (.flagged ⟨0, "a.jpg", true⟩ (.error .transport))] = some (_, _) := rfl
    exact ⟨_, _, _, _, .of_replay h, rfl, Running.settled_of_tasks rfl 0, rfl, rfl,
      by decide, rfl⟩

end RankedSearch.Session
