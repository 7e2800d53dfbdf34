import RankedSearch.Proofs.Session.Marks

/-! # The marks of a tail

One command marks all the distractors at the end of a list, each with an update of its own. The
updates settle in any order while pages come; where the list ends does not depend on that order.
The reason is that the items have one machine each (`Tracked`), that each of them is marked once,
and that pages come to the list as they would come to one without marks (`Since`). -/
namespace RankedSearch.Session

/-! ## Which items they are -/

theorem getElem?_snoc_of_ne {α : Type} {front : List α} {index : Nat} (last : α)
    (h : index ≠ front.length) : (front ++ [last])[index]? = front[index]? := by
  rw [List.getElem?_append]
  split
  · rfl
  · rw [List.getElem?_eq_none (by rw [List.length_singleton]; omega),
      List.getElem?_eq_none (by omega)]

/-- A place behind all the marked items of a list. -/
def AfterMarks (items : List Item) (index : Nat) : Prop :=
  ∀ place item, items[place]? = some item → item.falseNegative = true → place < index

theorem afterMarks_snoc {front : List Item} {last : Item} {index : Nat} :
    AfterMarks (front ++ [last]) index ↔
      AfterMarks front index ∧ (last.falseNegative = true → front.length < index) := by
  constructor
  · refine fun h => ⟨fun place item hx => h place item ?_, h front.length last ?_⟩
    · rw [List.getElem?_append_left (List.getElem?_eq_some_iff.mp hx).1, hx]
    · exact List.getElem?_concat_length
  · rintro ⟨hfront, hlast⟩ place item hx hmarked
    rw [List.getElem?_append] at hx
    split at hx
    · exact hfront place item hx hmarked
    · have hplace := (List.getElem?_eq_some_iff.mp hx).1
      rw [List.length_singleton] at hplace
      cases List.mem_singleton.mp (List.mem_of_getElem? hx)
      have := hlast hmarked
      omega

namespace Pager

variable {p : Pager} {index : Nat}

theorem tailDistractors_sublist (p : Pager) :
    p.tailDistractors.Sublist (List.range p.items.length).reverse := by
  have hplaces : p.items.zipIdx.reverse.map Prod.snd = (List.range p.items.length).reverse := by
    rw [List.map_reverse, List.zipIdx_map_snd, List.range_eq_range']
  rw [← hplaces]
  exact (List.filter_sublist.trans (List.takeWhile_sublist _)).map _

theorem decreasing_tailDistractors (p : Pager) : p.tailDistractors.Pairwise (· > ·) :=
  (List.pairwise_lt_range.reverse).sublist p.tailDistractors_sublist

theorem nodup_tailDistractors (p : Pager) : p.tailDistractors.Nodup :=
  p.decreasing_tailDistractors.imp Nat.ne_of_gt

/-- What the last item adds to the distractors of a tail. -/
theorem tailDistractors_snoc (front : List Item) (last : Item) :
    tailDistractors { items := front ++ [last] } =
      if last.falseNegative then []
      else if last.isDistractor then front.length :: tailDistractors { items := front }
      else tailDistractors { items := front } := by
  unfold tailDistractors
  dsimp only
  rw [List.zipIdx_append, List.reverse_append, List.zipIdx_singleton, List.reverse_singleton,
    List.singleton_append, List.takeWhile_cons, Nat.zero_add]
  cases last.falseNegative <;> cases hd : last.isDistractor <;> simp [hd]

theorem mem_tailDistractors_items {items : List Item} : index ∈ tailDistractors { items } ↔
    ∃ item, items[index]? = some item ∧ item.isDistractor = true ∧ AfterMarks items index := by
  induction items using List.reverseRecOn with
  | nil => simp [tailDistractors]
  | append_singleton front last ih =>
    rw [tailDistractors_snoc]
    by_cases hmarked : last.falseNegative = true
    · -- nothing lies behind the last item
      rw [if_pos hmarked]
      refine iff_of_false List.not_mem_nil ?_
      rintro ⟨item, hx, _, hafter⟩
      have hbehind := (afterMarks_snoc.mp hafter).2 hmarked
      have hwithin := (List.getElem?_eq_some_iff.mp hx).1
      rw [List.length_append, List.length_singleton] at hwithin
      omega
    · rw [if_neg hmarked]
      have hafter : AfterMarks (front ++ [last]) index ↔ AfterMarks front index :=
        afterMarks_snoc.trans (and_iff_left fun h => absurd h hmarked)
      rw [hafter]
      by_cases hlast : index = front.length
      · subst hlast
        have hlater : AfterMarks front front.length :=
          fun _ _ hx _ => (List.getElem?_eq_some_iff.mp hx).1
        have hbeyond : front.length ∉ tailDistractors { items := front } := by
          rw [ih]
          rintro ⟨item, hx, _⟩
          exact absurd (List.getElem?_eq_some_iff.mp hx).1 (Nat.lt_irrefl _)
        by_cases hdistractor : last.isDistractor = true <;> simp [hdistractor, hlater, hbeyond]
      · rw [getElem?_snoc_of_ne last hlast, ← ih]
        by_cases hdistractor : last.isDistractor = true <;> simp [hdistractor, hlast]

/-- They are the distractors after the last marked item. -/
theorem mem_tailDistractors : index ∈ p.tailDistractors ↔
    ∃ item, p.items[index]? = some item ∧ item.isDistractor = true ∧ AfterMarks p.items index :=
  mem_tailDistractors_items

/-- They have no marks yet. -/
theorem item_of_mem_tailDistractors (h : index ∈ p.tailDistractors) :
    ∃ item, p.items[index]? = some item ∧ item.falseNegative = false := by
  obtain ⟨item, hx, _, hafter⟩ := mem_tailDistractors.mp h
  refine ⟨item, hx, Bool.eq_false_iff.mpr fun hmarked => ?_⟩
  exact Nat.lt_irrefl _ (hafter index item hx hmarked)

end Pager

/-! ## Marks that are started together -/

namespace Running

/-- Marking items of the list that are all different starts one update each. -/
theorem startFlags_snd (s : Running) {indices : List Nat} (hnodup : indices.Nodup)
    (h : ∀ index ∈ indices, ∃ item, s.pager.items[index]? = some item) :
    (s.startFlags indices).2 = indices.filterMap fun index =>
      s.pager.items[index]?.map fun item => .flag (patchOf index item) := by
  induction indices generalizing s with
  | nil => rfl
  | cons index rest ih =>
    obtain ⟨hfresh, hnodup⟩ := List.nodup_cons.mp hnodup
    obtain ⟨⟨item, hx⟩, hrest⟩ := List.forall_mem_cons.mp h
    have hsame : ∀ other ∈ rest, (s.flagging index item).pager.items[other]? =
        s.pager.items[other]? := by
      intro other hother
      have hne : index ≠ other := fun he => hfresh (he ▸ hother)
      simp [flagging, Pager.setMark, hne]
    have hflag : s.startFlag index = (s.flagging index item, [.flag (patchOf index item)]) := by
      simp [startFlag, Pager.mark, hx, begin, flagging, patchOf]
    have hlater := ih (s.flagging index item) hnodup fun other hother => by
      rw [hsame other hother]
      exact hrest other hother
    unfold startFlags
    rw [hflag]
    dsimp only
    rw [hlater, List.filterMap_cons, hx]
    simp only [Option.map_some, List.singleton_append, List.cons.injEq, true_and]
    exact List.filterMap_congr fun other hother => by rw [hsame other hother]

/-- Each of the items is marked once. -/
theorem flatMap_marks {p : Pager} {indices : List Nat} (hnodup : indices.Nodup)
    (h : ∀ index ∈ indices, ∃ item, p.items[index]? = some item) (place : Nat) :
    (indices.filterMap fun index =>
        p.items[index]?.map fun item => Task.flag (patchOf index item)).flatMap (·.marks place) =
      if place ∈ indices then [.marked] else [] := by
  induction indices with
  | nil => rfl
  | cons index rest ih =>
    obtain ⟨hfresh, hnodup⟩ := List.nodup_cons.mp hnodup
    obtain ⟨⟨item, hx⟩, hrest⟩ := List.forall_mem_cons.mp h
    rw [List.filterMap_cons, hx]
    simp only [Option.map_some, List.flatMap_cons]
    rw [ih hnodup hrest]
    show (if index = place then [MarkEvent.marked] else []) ++ _ = _
    by_cases hplace : index = place
    · subst hplace
      simp [hfresh]
    · simp [hplace, Ne.symm hplace]

end Running

/-! ## Pages alone -/

namespace Pager

/-- A pager after some pages have come to it, and nothing else. -/
def loads (p : Pager) (rs : List Reply) : Pager :=
  rs.foldl (fun p r => p.completeFetch r.1 r.2) p

theorem loads_append (p : Pager) (rs rs' : List Reply) :
    p.loads (rs ++ rs') = (p.loads rs).loads rs' := List.foldl_append

/-- Pages leave the items that are there where they are. -/
theorem getElem?_loads {p : Pager} {index : Nat} {item : Item} (hx : p.items[index]? = some item)
    (rs : List Reply) : (p.loads rs).items[index]? = some item := by
  induction rs generalizing p with
  | nil => exact hx
  | cons r rs ih =>
    refine ih (p := p.completeFetch r.1 r.2) ?_
    rw [items_completeFetch, List.getElem?_append_left (List.getElem?_eq_some_iff.mp hx).1, hx]

/-- At most one page comes at a time. -/
theorem items_loads_toList (p : Pager) (r? : Option Reply) :
    (p.loads r?.toList).items = p.items ++ r?.toList.flatMap p.brought := by
  cases r? with
  | none => exact (List.append_nil _).symm
  | some r =>
    rw [Option.toList_some, List.flatMap_singleton]
    exact p.items_completeFetch r.1 r.2

/-- Two pagers that pages cannot tell apart, with lists that differ in marks only. -/
structure Alike (p q : Pager) : Prop where
  items : p.items.map unmarked = q.items.map unmarked
  cursor : p.currentPage = q.currentPage

namespace Alike

variable {p q : Pager}

theorem brought (h : p.Alike q) : p.brought = q.brought := by
  funext r
  unfold Pager.brought
  rw [h.cursor]

theorem completeFetch (h : p.Alike q) (requested : UInt32) (page : Page) :
    (p.completeFetch requested page).Alike (q.completeFetch requested page) where
  items := by
    rw [items_completeFetch, items_completeFetch, List.map_append, List.map_append, h.items,
      h.brought]
  cursor := by
    unfold Pager.completeFetch
    dsimp only
    rw [h.cursor]
    split <;> rfl

/-- Whatever an input does to marks, it does to the pages what its reply does. -/
theorem react {s s' : Running} {i : Input} {started : List Task} (h : s.pager.Alike q)
    (hr : s.Reacts i s' started) : s'.pager.Alike (q.loads i.reply?.toList) := by
  have hquiet {i : Input} (hi : i.answer? = none) : q.loads i.reply?.toList = q := by
    rw [Input.reply?_of_answer? hi]
    rfl
  cases hr with
  | shown _ hi _ => rwa [hquiet hi]
  | heard _ hi _ _ => rwa [hquiet hi]
  | call _ hi _ _ _ => rwa [hquiet hi]
  | fetch _ hi _ _ => rw [hquiet hi]; exact ⟨h.items, h.cursor⟩
  | @flags c v _ =>
    refine Running.startFlags_induction (P := fun s _ => s.pager.Alike q) _ h ?_
    intro s _ index _ _ ih
    exact ⟨(s.pager.items_setMark_unmarked index true).trans ih.items, ih.cursor⟩
  | called _ hcall =>
    rw [Input.reply?_of_called hcall]
    exact h
  | loaded requested page => exact h.completeFetch requested page
  | missed => exact ⟨h.items, h.cursor⟩
  | accepted => exact h
  | refused patch _ _ =>
    exact ⟨(s.pager.items_revert_unmarked patch).trans h.items,
      (currentPage_revert _ _).trans h.cursor⟩
  | confirmed patch _ precision =>
    refine ⟨?_, (currentPage_settle _ _ _).trans h.cursor⟩
    rw [items_settle_confirmed]
    exact h.items

end Alike

end Pager

/-! ## What has become of a list since -/

/-- A session `t` that has come from a session without outstanding updates: its list is what the
pages have made of the list then, with the marks that its history says, and its counter has gone up
by the updates that are outstanding. -/
structure Since (s : Running) (history : List Event) (t : Running) : Prop where
  tracked : Tracked (s.pager.loads (replies history)).items (fun index => marks index history)
    t.pager.items (patches t.tasks)
  alike : t.pager.Alike (s.pager.loads (replies history))
  pending : t.pending = s.pending + (patches t.tasks).length

theorem length_patches_snoc (tasks : List Task) (t : Task) :
    (patches (tasks ++ [t])).length = t.patch?.toList.length + (patches tasks).length :=
  (patches_snoc tasks t).length_eq.trans List.length_append

/-- The counter goes with the outstanding updates. -/
theorem Running.Reacts.pending_patches {s s' : Running} {i : Input} {started : List Task}
    {before : Nat} (h : s.pending = before + (patches s.tasks).length) (ha : s.Accepts i)
    (hr : s.Reacts i s' started) : s'.pending = before + (patches s'.tasks).length := by
  have herase {t : Task} (ht : t ∈ s.tasks) :
      (patches s.tasks).length = t.patch?.toList.length + (patches (s.tasks.erase t)).length := by
    rw [(patches_erase ht).length_eq, List.length_append]
  -- a task that is no update leaves as many of them as there were
  have hother {t : Task} (ht : t ∈ s.tasks) (hp : t.patch? = none) :
      s.pending = before + (patches (s.tasks.erase t)).length := by
    rw [h, herase ht, hp, Option.toList_none, List.length_nil, Nat.zero_add]
  have hlast {t : Task} {patch : Patch} (ht : t ∈ s.tasks) (hp : t.patch? = some patch) :
      s.pending - 1 = before + (patches (s.tasks.erase t)).length := by
    rw [h, herase ht, hp, Option.toList_some, List.length_singleton]
    omega
  cases hr with
  | shown | heard => exact h
  | call _ _ _ _ hc => simp [length_patches_snoc, (Action.patch?_call hc).1, h]
  | fetch => simp [length_patches_snoc, Task.patch?, h]
  | flags v _ =>
    refine startFlags_induction
      (P := fun s _ => s.pending = before + (patches s.tasks).length) _ h ?_
    intro s _ index item _ ih
    have hmore : (patches (s.tasks ++ [.flag (patchOf index item)])).length =
        1 + (patches s.tasks).length := length_patches_snoc _ _
    show s.pending + 1 = before + (patches (s.tasks ++ [.flag (patchOf index item)])).length
    omega
  | called v hcall =>
    refine hother ha ?_
    rcases hcall with hc | hc <;> rw [hc] <;> rfl
  | loaded | missed => exact hother ha rfl
  | accepted patch =>
    have hleft := herase (t := .flag patch) ha
    have hmore := length_patches_snoc (s.tasks.erase (.flag patch)) (.refresh patch)
    exact h.trans (congrArg _ (hleft.trans hmore.symm))
  | refused | confirmed => exact hlast ha rfl

theorem Running.Runs.since {s t : Running} {history : List Event} (r : s.Runs history t)
    (hidle : patches s.tasks = []) : Since s history t := by
  induction r with
  | refl =>
    refine ⟨⟨fun _ => rfl, fun _ _ _ => ?_, fun _ _ => rfl, fun patch hm => ?_⟩, ⟨rfl, rfl⟩, ?_⟩
    · rw [hidle]
      exact .start
    · rw [hidle] at hm
      cases hm
    · rw [hidle]
      rfl
  | @step history t i r ha ih =>
    have hr := t.reacts i
    have htracked := ih.tracked.react ha hr
    rw [ih.alike.brought, ← Pager.items_loads_toList] at htracked
    have halike := ih.alike.react hr
    have hpending := hr.pending_patches ih.pending ha
    refine ⟨?_, ?_, hpending⟩
    · simp only [marks_snoc]
      rw [replies_snoc, Pager.loads_append]
      exact htracked
    · rw [replies_snoc, Pager.loads_append]
      exact halike

namespace Since

variable {s t : Running} {history : List Event}

/-- An item is what the pages brought, with the mark that its history says. -/
theorem item (h : Since s history t) (index : Nat) :
    t.pager.items[index]? = (s.pager.loads (replies history)).items[index]?.map fun d =>
      { d with falseNegative := shown d.falseNegative (marks index history) } := by
  have hflag := h.tracked.flags index
  have hrest := congrArg (·[index]?) h.alike.items
  simp only [List.getElem?_map] at hrest
  cases hd : (s.pager.loads (replies history)).items[index]? with
  | none =>
    rw [hd] at hflag
    exact Option.map_eq_none_iff.mp hflag
  | some d =>
    rw [hd] at hflag hrest
    obtain ⟨item, hitem, hmark⟩ := Option.map_eq_some_iff.mp hflag
    dsimp only at hmark
    rw [hitem] at hrest ⊢
    rw [Option.map_some, ← hmark]
    cases item
    cases d
    simp_all [unmarked]

/-- An item that was in the list is still there. -/
theorem item_of_here (h : Since s history t) {index : Nat} {item : Item}
    (hx : s.pager.items[index]? = some item) :
    t.pager.items[index]? =
      some { item with falseNegative := shown item.falseNegative (marks index history) } := by
  rw [h.item, Pager.getElem?_loads hx, Option.map_some]

end Since

/-! ## Runs without other marks -/

/-- No item is marked in a history: its only commands ask for pages. -/
def Unmarking (history : List Event) : Prop :=
  ∀ e ∈ history, ∀ c, e.input = .command c → c = .loadMore

namespace Running

variable {s t : Running} {history : List Event}

/-- Marks are only sent off by commands. -/
theorem Reacts.of_flag_mem {s' : Running} {i : Input} {started : List Task} {patch : Patch}
    (hr : s.Reacts i s' started) (hm : .flag patch ∈ started) :
    ∃ c, i = .command c ∧ c ≠ .loadMore := by
  cases hr with
  | flags _ hc => exact ⟨_, rfl, hc⟩
  | call _ _ _ _ hc =>
    rw [← List.mem_singleton.mp hm] at hc
    cases (Action.patch?_call hc).1
  | shown | heard | fetch | called | loaded | missed | accepted | refused | confirmed =>
    simp at hm

theorem Runs.count_marked (r : s.Runs history t) (h : Unmarking history) (index : Nat) :
    (marks index history).count .marked = 0 := by
  induction r with
  | refl => rfl
  | @step history t i r ha ih =>
    have hsettled : (i.settled index).count .marked = 0 := by
      unfold Input.settled
      split
      · split <;> rfl
      · split <;> rfl
      · rfl
    have hstarted : (t.step i).2.flatMap (·.marks index) = [] := by
      refine List.flatMap_eq_nil_iff.mpr fun task hm => ?_
      cases task with
      | flag patch =>
        obtain ⟨c, hi, hc⟩ := (t.reacts i).of_flag_mem hm
        exact absurd (h _ (List.mem_append_right _ (List.mem_singleton_self _)) c hi) hc
      | train | rank | fetch | refresh => rfl
    rw [marks_snoc, hstarted, List.append_nil, List.count_append, hsettled,
      ih fun e he => h e (List.mem_append_left _ he)]

theorem patches_eq_nil (h : ∀ index, s.Settled index) : patches s.tasks = [] := by
  refine List.eq_nil_iff_forall_not_mem.mpr fun patch hm => ?_
  obtain ⟨task, htask, hpatch⟩ := List.mem_filterMap.mp hm
  cases task with
  | flag _ => cases hpatch; exact h patch.index patch (.inl htask) rfl
  | refresh _ => cases hpatch; exact h patch.index patch (.inr htask) rfl
  | train | rank | fetch => cases hpatch

/-! ## The marks of the tail -/

/-- The command that marks the distractors at the end, as a session takes it in. -/
def tailMarked (s : Running) : Running × List Task := s.step (.command .markTailDistractors)

theorem tailMarked_snd (s : Running) :
    s.tailMarked.2 = s.pager.tailDistractors.filterMap fun index =>
      s.pager.items[index]?.map fun item => .flag (patchOf index item) :=
  startFlags_snd { s with view := _ } s.pager.nodup_tailDistractors fun _ hm =>
    (Pager.item_of_mem_tailDistractors hm).imp fun _ => And.left

/-- What has happened since the command, the command included. -/
def sinceTail (s : Running) (history : List Event) : List Event :=
  ⟨.command .markTailDistractors, s.tailMarked.2⟩ :: history

theorem marks_sinceTail (s : Running) (history : List Event) (index : Nat) :
    marks index (s.sinceTail history) =
      (if index ∈ s.pager.tailDistractors then [.marked] else []) ++ marks index history := by
  have hstarted : s.tailMarked.2.flatMap (·.marks index) =
      if index ∈ s.pager.tailDistractors then [.marked] else [] := by
    rw [tailMarked_snd]
    exact flatMap_marks s.pager.nodup_tailDistractors (fun _ hm =>
      (Pager.item_of_mem_tailDistractors hm).imp fun _ => And.left) index
  rw [← hstarted]
  rfl

/-- A session in which the updates of the tail have settled, and nothing else was marked. -/
structure TailSettled (s : Running) (history : List Event) (t : Running) : Prop where
  run : s.tailMarked.1.Runs history t
  unmarking : Unmarking history
  settled : ∀ index, t.Settled index

namespace TailSettled

theorem since (h : TailSettled s history t) (hidle : ∀ index, s.Settled index) :
    Since s (s.sinceTail history) t := by
  have hstart : s.Runs [⟨.command .markTailDistractors, s.tailMarked.2⟩] s.tailMarked.1 :=
    .step (.command .markTailDistractors) .refl trivial
  exact (hstart.append h.run).since (patches_eq_nil hidle)

/-- Each update of the tail has settled one way or the other, and there are no others. -/
theorem marks_cases (h : TailSettled s history t) (hidle : ∀ index, s.Settled index)
    (index : Nat) :
    (index ∈ s.pager.tailDistractors ∧
        (marks index history = [.confirmed] ∨ marks index history = [.rolledBack false])) ∨
      index ∉ s.pager.tailDistractors ∧ marks index history = [] := by
  have hsince := h.since hidle
  have hevents := s.marks_sinceTail history index
  have hcount := h.run.count_marked h.unmarking index
  cases hd : (s.pager.loads (replies (s.sinceTail history))).items[index]? with
  | none =>
    have hnone := hsince.tracked.fresh index hd
    rw [hevents] at hnone
    obtain ⟨hnot, hmarks⟩ := List.append_eq_nil_iff.mp hnone
    refine .inr ⟨fun hm => ?_, hmarks⟩
    rw [if_pos hm] at hnot
    cases hnot
  | some d =>
    have hupdates := hsince.tracked.updates index d hd
    rw [patches_eq_nil h.settled] at hupdates
    by_cases hm : index ∈ s.pager.tailDistractors
    · rw [if_pos hm, List.singleton_append] at hevents
      rw [hevents] at hupdates
      obtain ⟨item, hx, hunflagged⟩ := Pager.item_of_mem_tailDistractors hm
      cases (Pager.getElem?_loads hx _).symm.trans hd
      rw [hunflagged] at hupdates
      rcases hupdates.of_marked_once (by rw [List.count_cons_self, hcount]) with
        ⟨_, hsaved⟩ | ⟨hended | hended, _⟩
      · cases hsaved
      · exact .inl ⟨hm, .inl (List.cons.inj hended).2⟩
      · exact .inl ⟨hm, .inr (List.cons.inj hended).2⟩
    · rw [if_neg hm, List.nil_append] at hevents
      rw [hevents] at hupdates
      exact .inr ⟨hm, (hupdates.eq_nil_of_unmarked hcount).1⟩

/-- Where an item ends that was in the list. -/
theorem item_of_here (h : TailSettled s history t) (hidle : ∀ index, s.Settled index)
    {index : Nat} {item : Item} (hx : s.pager.items[index]? = some item) :
    t.pager.items[index]? = some { item with
      falseNegative := shown item.falseNegative
        ((if index ∈ s.pager.tailDistractors then [.marked] else []) ++ marks index history) } := by
  rw [(h.since hidle).item_of_here hx, marks_sinceTail]

/-- The list depends on the pages that came and on the updates that were confirmed alone. -/
theorem items_eq (h : TailSettled s history t) (hidle : ∀ index, s.Settled index)
    {history' : List Event} {t' : Running} (h' : TailSettled s history' t')
    (hpages : replies history' = replies history)
    (hsame : ∀ index, .confirmed ∈ marks index history' ↔ .confirmed ∈ marks index history) :
    t'.pager.items = t.pager.items := by
  refine List.ext_getElem? fun index => ?_
  have hmarks : marks index history' = marks index history := by
    have hsame := hsame index
    rcases h.marks_cases hidle index with ⟨hm, hend | hend⟩ | ⟨hm, hend⟩ <;>
      rcases h'.marks_cases hidle index with ⟨hm', hend' | hend'⟩ | ⟨hm', hend'⟩ <;>
      rw [hend, hend'] at hsame ⊢ <;> simp_all
  have hloads : replies (s.sinceTail history') = replies (s.sinceTail history) := hpages
  rw [(h.since hidle).item, (h'.since hidle).item, hloads, marks_sinceTail, marks_sinceTail,
    hmarks]

end TailSettled

/-- **The marks of a tail settle one by one.** Whatever subset of the updates fails, in whatever
order they settle and whatever pages come meanwhile: in the end the items whose updates were
confirmed are marked, those whose updates failed and all the others are as they were, and so is the
counter. Two runs in which the same pages come and the same updates are confirmed end with the same
list. -/
theorem tail_settles_in_any_order (hidle : ∀ index, s.Settled index)
    (h : TailSettled s history t) :
    (s.tailMarked.2 = s.pager.tailDistractors.filterMap fun index =>
      s.pager.items[index]?.map fun item => .flag ⟨index, item.path, item.falseNegative⟩) ∧
    (∀ index ∈ s.pager.tailDistractors, ∃ item, s.pager.items[index]? = some item ∧
      item.falseNegative = false ∧
        (marks index history = [.confirmed] ∧
            t.pager.items[index]? = some { item with falseNegative := true } ∨
          marks index history = [.rolledBack false] ∧ t.pager.items[index]? = some item)) ∧
    (∀ index item, index ∉ s.pager.tailDistractors → s.pager.items[index]? = some item →
      t.pager.items[index]? = some item) ∧
    t.pending = s.pending ∧
    ∀ history' t', TailSettled s history' t' → replies history' = replies history →
      (∀ index, .confirmed ∈ marks index history' ↔ .confirmed ∈ marks index history) →
        t'.pager.items = t.pager.items := by
  refine ⟨s.tailMarked_snd, fun index hm => ?_, fun index item hm hx => ?_, ?_,
    fun history' t' h' => h.items_eq hidle h'⟩
  · obtain ⟨item, hx, hunflagged⟩ := Pager.item_of_mem_tailDistractors hm
    have hitem := h.item_of_here hidle hx
    rw [if_pos hm, hunflagged] at hitem
    refine ⟨item, hx, hunflagged, ?_⟩
    rcases h.marks_cases hidle index with ⟨_, hend | hend⟩ | ⟨hm', _⟩
    · rw [hend] at hitem
      exact .inl ⟨hend, hitem⟩
    · rw [hend] at hitem
      refine .inr ⟨hend, hitem.trans ?_⟩
      cases item
      cases hunflagged
      rfl
    · exact absurd hm hm'
  · have hitem := h.item_of_here hidle hx
    rcases h.marks_cases hidle index with ⟨hm', _⟩ | ⟨_, hend⟩
    · exact absurd hm' hm
    · rw [if_neg hm, hend] at hitem
      exact hitem
  · have hpending := (h.since hidle).pending
    rwa [patches_eq_nil h.settled] at hpending

/-- Two distractors behind a marked item: the update of the last one fails, a page comes, and the
other update is confirmed. -/
theorem tail_settles_in_any_order_one_failing :
    ∃ s history t, TailSettled s history t ∧ (∀ index, s.Settled index) ∧
      s.pager.tailDistractors = [2, 1] ∧ marks 2 history = [.rolledBack false] ∧
      marks 1 history = [.confirmed] ∧ t.pending = s.pending ∧
      t.pager.items.map Item.falseNegative = [true, true, false, false] ∧
      t.pager.items[0]? = s.pager.items[0]? := by
  let s : Running := { Running.init sampleRoute with
    pager := {
      items := [{ path := "a.jpg", score := .zero, falseNegative := true },
        { path := "b.jpg", score := .zero, isDistractor := true },
        { path := "c.jpg", score := .zero, isDistractor := true }]
      currentPage := 1
      pageCount := 2 } }
  have hreplay : s.tailMarked.1.replay
      [.command .loadMore, .answered (.flagged ⟨2, "c.jpg", false⟩ (.error .transport)),
        .answered (.fetched 2 (.ok (samplePage 2 2 "d.jpg"))),
        .answered (.flagged ⟨1, "b.jpg", false⟩ (.ok ())),
        .answered (.refreshed ⟨1, "b.jpg", false⟩ (.error .transport))] = some (_, _) := rfl
  have hidle : ∀ index, s.Settled index := fun index => settled_of_tasks rfl index
  have run : s.tailMarked.1.Runs _ _ := .of_replay hreplay
  have h := TailSettled.mk run (fun e he c hc => by
    simp only [List.mem_cons, List.not_mem_nil, or_false] at he
    rcases he with rfl | rfl | rfl | rfl | rfl <;> cases hc
    rfl) (settled_of_tasks rfl)
  obtain ⟨_, _, hrest, hpending, _⟩ := tail_settles_in_any_order hidle h
  refine ⟨s, _, _, h, hidle, by decide +kernel, by decide +kernel, by decide +kernel, hpending,
    by decide +kernel, ?_⟩
  exact hrest 0 _ (by decide) rfl

end Running

end RankedSearch.Session
