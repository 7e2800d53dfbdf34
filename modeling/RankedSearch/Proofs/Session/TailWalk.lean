import RankedSearch.Proofs.Session.TailMarks

/-! # The walk along a tail

The items that one command marks are the distractors after the last marked item. They can also be
had by a walk from the end of the list towards its head that marks as it goes: it reads places that
it has not written yet, so what it marks makes no difference to where it stops. Once the items are
marked the next such command finds none. -/
namespace RankedSearch.Session

/-- Sets the mark of the item at a place. -/
def markAt (items : List Item) (index : Nat) : List Item :=
  items.modify index fun item => { item with falseNegative := true }

/-- Walks over the first `n` items of a list, the last of them first. It marks the distractors on
its way and stops at the first item that has a mark. Gives the list as it leaves it and the places
of the items that it has marked. -/
def walkTail (items : List Item) : Nat → List Item × List Nat
  | 0 => (items, [])
  | n + 1 =>
    match items[n]? with
    | none => walkTail items n
    | some item =>
      if item.falseNegative then (items, [])
      else if item.isDistractor then
        let (items, places) := walkTail (items.set n { item with falseNegative := true }) n
        (items, n :: places)
      else walkTail items n

/-! ## Setting several marks -/

theorem markAt_eq_set {items : List Item} {n : Nat} {item : Item} (h : items[n]? = some item) :
    markAt items n = items.set n { item with falseNegative := true } := by
  rw [markAt, List.modify_eq_set_getElem?, h]
  rfl

/-- Each item keeps its place and all but its mark. -/
theorem getElem?_foldl_markAt (places : List Nat) (items : List Item) (index : Nat) :
    (places.foldl markAt items)[index]? = items[index]?.map fun item =>
      if index ∈ places then { item with falseNegative := true } else item := by
  induction places generalizing items with
  | nil => simp
  | cons place rest ih =>
    rw [List.foldl_cons, ih, markAt, List.getElem?_modify]
    by_cases hplace : place = index
    · cases items[index]? <;> simp [hplace]
    · cases items[index]? <;> simp [hplace, Ne.symm hplace]

theorem Running.startFlag_items (s : Running) (index : Nat) :
    (s.startFlag index).1.pager.items = markAt s.pager.items index := by
  unfold startFlag Pager.mark
  cases hx : s.pager.items[index]? with
  | none => exact (List.modify_eq_self (List.getElem?_eq_none_iff.mp hx)).symm
  | some item => rfl

theorem Running.startFlags_items (s : Running) (indices : List Nat) :
    (s.startFlags indices).1.pager.items = indices.foldl markAt s.pager.items := by
  induction indices generalizing s with
  | nil => rfl
  | cons index rest ih =>
    rw [List.foldl_cons, ← s.startFlag_items]
    exact ih (s.startFlag index).1

/-! ## The walk -/

theorem walkTail_eq {items : List Item} {n : Nat} (h : n ≤ items.length) :
    walkTail items n = ((Pager.tailDistractors { items := items.take n }).foldl markAt items,
      Pager.tailDistractors { items := items.take n }) := by
  induction n generalizing items with
  | zero => rfl
  | succ n ih =>
    have hx : items[n]? = some items[n] := List.getElem?_eq_getElem h
    have hfront : (items.take n).length = n := List.length_take_of_le (Nat.le_of_lt h)
    rw [List.take_succ_eq_append_getElem h, Pager.tailDistractors_snoc, hfront]
    unfold walkTail
    rw [hx]
    dsimp only
    split
    · rfl
    · split
      · -- the place that is written is not read again
        have hunread : (items.set n { items[n] with falseNegative := true }).take n =
            items.take n := List.take_set_of_le (Nat.le_refl n)
        rw [ih (by rw [List.length_set]; exact Nat.le_of_lt h), hunread, List.foldl_cons,
          markAt_eq_set hx]
      · exact ih (Nat.le_of_lt h)

/-- Once they are marked there are none left. -/
theorem Pager.tailDistractors_marked (p : Pager) :
    tailDistractors { items := p.tailDistractors.foldl markAt p.items } = [] := by
  refine List.eq_nil_iff_forall_not_mem.mpr fun index hm => ?_
  obtain ⟨_, hx, hdistractor, hafter⟩ := mem_tailDistractors_items.mp hm
  rw [getElem?_foldl_markAt] at hx
  obtain ⟨item, hitem, rfl⟩ := Option.map_eq_some_iff.mp hx
  by_cases hchosen : index ∈ p.tailDistractors
  · rw [if_pos hchosen] at hx
    exact Nat.lt_irrefl _ (hafter index _ ((getElem?_foldl_markAt ..).trans hx) rfl)
  · refine hchosen (mem_tailDistractors.mpr ⟨item, hitem, ?_, fun place marked hplace hmarked => ?_⟩)
    · rwa [if_neg hchosen] at hdistractor
    · -- what was marked before still is
      refine hafter place _ ((getElem?_foldl_markAt ..).trans (congrArg _ hplace)) ?_
      split
      · rfl
      · exact hmarked

namespace Running

theorem tailMarked_items (s : Running) :
    s.tailMarked.1.pager.items = s.pager.tailDistractors.foldl markAt s.pager.items :=
  startFlags_items { s with view := _ } s.pager.tailDistractors

/-- **The walk along a tail.** One command marks the distractors after the last marked item, the
last of them first. It leaves the list as the walk does that marks them on its way, at the same
places; and the same command after it has nothing left to mark. -/
theorem tail_walked_once (s : Running) :
    s.pager.tailDistractors.Pairwise (· > ·) ∧
    (∀ index, index ∈ s.pager.tailDistractors ↔
      ∃ item, s.pager.items[index]? = some item ∧ item.isDistractor = true ∧
        ∀ place marked, s.pager.items[place]? = some marked → marked.falseNegative = true →
          place < index) ∧
    walkTail s.pager.items s.pager.items.length =
      (s.tailMarked.1.pager.items, s.pager.tailDistractors) ∧
    s.tailMarked.1.tailMarked.2 = [] := by
  refine ⟨s.pager.decreasing_tailDistractors, fun index => Pager.mem_tailDistractors, ?_, ?_⟩
  · rw [walkTail_eq (Nat.le_refl _), List.take_length, tailMarked_items]
    rfl
  · have hnone : s.tailMarked.1.pager.tailDistractors = [] := by
      have := s.pager.tailDistractors_marked
      rwa [← s.tailMarked_items] at this
    rw [tailMarked_snd, hnone]
    rfl

/-- Items that are no distractors are passed over, and a marked distractor ends the walk. -/
example : (walkTail [{ path := "a.jpg", score := .zero, isDistractor := true },
    { path := "b.jpg", score := .zero, isDistractor := true, falseNegative := true },
    { path := "c.jpg", score := .zero, isDistractor := true },
    { path := "d.jpg", score := .zero },
    { path := "e.jpg", score := .zero, isDistractor := true }] 5).2 = [4, 2] := by decide

end Running

end RankedSearch.Session
