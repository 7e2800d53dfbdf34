import RankedSearch.Proofs.Json.Documents
import RankedSearch.Ranking

/-! # Printed pages read back

A page of finite figures, printed as JSON, is read as a page again. The scores and the precision
figures go through a decimal and may come back in another last place; everything else comes back as
it was. -/
namespace RankedSearch

open RankedSearch.Json RankedSearch.Number

namespace Json

/-! ## Fields and lists -/

theorem fieldOf_of_mem {members : List (String × Value)} (h : (members.map Prod.fst).Nodup)
    {m : String × Value} (hm : m ∈ members) :
    fieldOf (members.map fun (name, value) => (some name, value)) m.1 = some (some m.2) := by
  have hfilter : (members.map fun (name, value) => (some name, value)).filter
      (fun other => other.1 = some m.1) = [(some m.1, m.2)] := by
    induction members with
    | nil => cases hm
    | cons first members ih =>
      rw [List.map_cons, List.nodup_cons] at h
      rw [List.map_cons, List.filter_cons]
      rcases List.mem_cons.mp hm with rfl | hm
      · have hnone : (members.map fun (name, value) => (some name, value)).filter
            (fun other => other.1 = some m.1) = [] := by
          rw [List.filter_eq_nil_iff]
          intro other hother hsame
          obtain ⟨m', hm', rfl⟩ := List.mem_map.mp hother
          have hname : m'.1 = m.1 := by simpa using hsame
          exact h.1 (List.mem_map.mpr ⟨m', hm', hname⟩)
        rw [if_pos (by simp), hnone]
      · have hne : first.1 ≠ m.1 := by
          intro hsame
          exact h.1 (hsame ▸ List.mem_map_of_mem hm)
        rw [if_neg (by simpa using hne), ih h.2 hm]
  unfold fieldOf
  rw [hfilter]

theorem mapM_of_forall {α β : Type} {f : α → Option β} {g : α → β} {xs : List α}
    (h : ∀ x ∈ xs, f x = some (g x)) : xs.mapM f = some (xs.map g) := by
  induction xs with
  | nil => rfl
  | cons x xs ih =>
    obtain ⟨hx, hxs⟩ := List.forall_mem_cons.mp h
    rw [List.mapM_cons, hx, ih hxs]
    rfl

theorem Value.fields?_eq (members : List (String × Value)) (names : List String) :
    (record members).fields? names =
      names.mapM (fieldOf (members.map fun (name, value) => (some name, value))) := by
  have hall : (members.map fun (name, value) => (some name, value)).all (·.1.isSome) = true := by
    simp
  exact if_pos hall

/-- A record gives its fields by their names. -/
theorem Value.fields?_record {members : List (String × Value)}
    (h : (members.map Prod.fst).Nodup) :
    (record members).fields? (members.map Prod.fst) = some (members.map fun m => some m.2) := by
  rw [fields?_eq, List.mapM_map]
  exact mapM_of_forall fun m hm => fieldOf_of_mem h hm

/-- A list is read if each of its items is, and what is kept of the items is kept of the list. -/
theorem exists_listOf {α β γ : Type} {decode : Value → Option α} {write : β → Value} {kept : α → γ}
    {known : β → γ} {xs : List β}
    (h : ∀ x ∈ xs, ∃ y, decode (write x) = some y ∧ kept y = known x) :
    ∃ ys, listOf decode (.array (xs.map write)) = some ys ∧ ys.map kept = xs.map known := by
  show ∃ ys, (xs.map write).mapM decode = some ys ∧ _
  induction xs with
  | nil => exact ⟨[], rfl, rfl⟩
  | cons x xs ih =>
    obtain ⟨y, hy, hkept⟩ := h x (List.mem_cons_self ..)
    obtain ⟨ys, hys, hrest⟩ := ih fun x hx => h x (List.mem_cons_of_mem _ hx)
    refine ⟨y :: ys, ?_, by rw [List.map_cons, List.map_cons, hkept, hrest]⟩
    rw [List.map_cons, List.mapM_cons, hy, hys]
    rfl

namespace Value

/-- What a value is read as, from its text as a document. -/
def readBack (v : Value) : Value := v.reread.settled

theorem readBack_array {α : Type} (write : α → Value) (xs : List α) :
    (array (xs.map write)).readBack = .array (xs.map fun x => (write x).readBack) := by
  unfold readBack
  rw [reread_array, settled_array, List.map_map, List.map_map]
  rfl

theorem readBack_record {members : List (String × Value)} (h : (members.map Prod.fst).Nodup) :
    (record members).readBack = record (members.map fun m => (m.1, m.2.readBack)) := by
  unfold readBack
  rw [reread_record, settled_record, List.map_map]
  · rfl
  · rw [List.map_map]
    exact h

theorem readBack_nat {n : Nat} (h : n < UInt64.size) : (nat n).readBack = nat n := by
  unfold readBack
  rw [reread_nat h, settled_nat]

end Value

end Json

/-! ## Items and pages -/

/-- An item without its score. -/
def Item.unscored (i : Item) : Item := { i with score := .zero }

/-- Whether every figure of a page is finite. -/
def Page.isFinite (p : Page) : Bool :=
  p.items.all (·.score.isFinite) && p.precisions.all (·.isFinite) &&
    p.distractorPrecisions.all (·.isFinite)

theorem Item.nodup_fieldNames : Item.fieldNames.Nodup := by decide

theorem Page.nodup_fieldNames : Page.fieldNames.Nodup := by decide

theorem Item.exists_ofJson? {i : Item} (h : i.score.isFinite = true) :
    ∃ j, Item.ofJson? i.toJson.readBack = some j ∧ j.unscored = i.unscored := by
  obtain ⟨score, hscore⟩ := Value.exists_asSingle?_single h
  refine ⟨{ i with score }, ?_, rfl⟩
  have hitem : i.toJson.readBack = .record [("path", .text i.path),
      ("score", (Value.single i.score).readBack), ("fn", .bool i.falseNegative),
      ("is_distractor", .bool i.isDistractor)] := Value.readBack_record Item.nodup_fieldNames
  have hfields : i.toJson.readBack.fields? Item.fieldNames = some [some (.text i.path),
      some (Value.single i.score).readBack, some (.bool i.falseNegative),
      some (.bool i.isDistractor)] := by
    rw [hitem]
    exact Value.fields?_record Item.nodup_fieldNames
  unfold Item.ofJson?
  rw [hfields]
  show (Value.asSingle? (Value.single i.score).readBack).bind _ = _
  unfold Value.readBack
  rw [hscore]
  rfl

theorem exists_listOf_single {xs : List Single} (h : xs.all (·.isFinite) = true) :
    ∃ ys, listOf Value.asSingle? (Value.array (xs.map .single)).readBack = some ys := by
  have hlist : ∃ ys, listOf Value.asSingle? (.array (xs.map fun x => (Value.single x).readBack)) =
      some ys ∧ ys.map (fun _ => ()) = xs.map fun _ => () := by
    refine exists_listOf fun x hx => ?_
    obtain ⟨y, hy⟩ := Value.exists_asSingle?_single (List.all_eq_true.mp h x hx)
    exact ⟨y, hy, rfl⟩
  obtain ⟨ys, hys, _⟩ := hlist
  rw [Value.readBack_array]
  exact ⟨ys, hys⟩

theorem pageNumberOfJson?_readBack (n : UInt32) :
    pageNumberOfJson? (Value.nat n.toNat).readBack = some n := by
  have hn := n.toNat_lt
  rw [Value.readBack_nat (Nat.lt_trans hn (by decide))]
  simp [pageNumberOfJson?, Value.nat, Value.asNat?, Literal.toNat?, Literal.ofNat, UInt32.size, hn]

theorem countOfJson?_readBack (n : UInt64) :
    countOfJson? (Value.nat n.toNat).readBack = some n := by
  have hn := n.toNat_lt
  rw [Value.readBack_nat hn]
  simp [countOfJson?, Value.nat, Value.asNat?, Literal.toNat?, Literal.ofNat, UInt64.size, hn]

/-- **A printed page reads back.** -/
theorem Page.exists_ofJson? {p : Page} (h : p.isFinite = true) :
    ∃ q, Page.ofJson? p.toJson.readBack = some q ∧
      q.items.map Item.unscored = p.items.map Item.unscored ∧
      q.number = p.number ∧ q.count = p.count ∧ q.visited = p.visited := by
  unfold Page.isFinite at h
  rw [Bool.and_eq_true, Bool.and_eq_true] at h
  obtain ⟨⟨hitems, hprecisions⟩, hdistractors⟩ := h
  have hlist : ∃ items,
      listOf Item.ofJson? (.array (p.items.map fun i => i.toJson.readBack)) = some items ∧
        items.map Item.unscored = p.items.map Item.unscored :=
    exists_listOf fun i hi => Item.exists_ofJson? (List.all_eq_true.mp hitems i hi)
  obtain ⟨items, hitems, hsame⟩ := hlist
  obtain ⟨precisions, hprecisions⟩ := exists_listOf_single hprecisions
  obtain ⟨distractors, hdistractors⟩ := exists_listOf_single hdistractors
  refine ⟨⟨items, p.number, p.count, p.visited, precisions, distractors⟩, ?_, hsame, rfl, rfl, rfl⟩
  have hpage : p.toJson.readBack = .record [
      ("rlist", (Value.array (p.items.map Item.toJson)).readBack),
      ("page", (Value.nat p.number.toNat).readBack),
      ("page_count", (Value.nat p.count.toNat).readBack),
      ("visited", (Value.nat p.visited.toNat).readBack),
      ("prec", (Value.array (p.precisions.map .single)).readBack),
      ("prec_distr_ono", (Value.array (p.distractorPrecisions.map .single)).readBack)] :=
    Value.readBack_record Page.nodup_fieldNames
  have hfields : p.toJson.readBack.fields? Page.fieldNames = some [
      some (Value.array (p.items.map Item.toJson)).readBack,
      some (Value.nat p.number.toNat).readBack, some (Value.nat p.count.toNat).readBack,
      some (Value.nat p.visited.toNat).readBack,
      some (Value.array (p.precisions.map .single)).readBack,
      some (Value.array (p.distractorPrecisions.map .single)).readBack] := by
    rw [hpage]
    exact Value.fields?_record Page.nodup_fieldNames
  rw [Value.readBack_array] at hfields
  unfold Page.ofJson?
  rw [hfields]
  simp only [withDefault, required, hitems, pageNumberOfJson?_readBack, countOfJson?_readBack,
    hprecisions, hdistractors, Option.bind_eq_bind, Option.bind_some, Option.pure_def]

/-! ## Pages as documents -/

theorem Item.isWritten_toJson (i : Item) : i.toJson.isWritten = true := by
  simp [Item.toJson]

theorem Item.isPlain_toJson {i : Item} (h : i.score.isFinite = true) (depth : Nat) :
    (i.toJson.reread).isPlain (depth + 1) = true := by
  simp [Item.toJson, Value.isPlain_single h]

theorem Page.isWritten_toJson (p : Page) : p.toJson.isWritten = true := by
  simp [Page.toJson, Item.isWritten_toJson, List.all_map]

theorem Page.isPlain_toJson {p : Page} (h : p.isFinite = true) (depth : Nat) :
    (p.toJson.reread).isPlain (depth + 3) = true := by
  unfold Page.isFinite at h
  simp only [Bool.and_eq_true, List.all_eq_true] at h
  obtain ⟨⟨hitems, hprecisions⟩, hdistractors⟩ := h
  have hnumber (n : UInt32) : (Value.nat n.toNat).reread.isPlain (depth + 2) = true := by
    have hn := Nat.lt_trans n.toNat_lt (show 2 ^ 32 < UInt64.size by decide)
    rw [Value.reread_nat hn, Value.isPlain_nat _ hn]
  have hvisited : (Value.nat p.visited.toNat).reread.isPlain (depth + 2) = true := by
    rw [Value.reread_nat p.visited.toNat_lt, Value.isPlain_nat _ p.visited.toNat_lt]
  simp only [Page.toJson, Value.reread_record, Value.isPlain_record, List.map_cons, List.map_nil,
    List.all_cons, List.all_nil, hnumber, hvisited, Value.reread_array, Value.isPlain_array,
    List.all_map, Bool.and_true, Bool.true_and, Bool.and_eq_true, List.all_eq_true]
  exact ⟨fun i hi => Item.isPlain_toJson (hitems i hi) depth,
    fun x hx => Value.isPlain_single (hprecisions x hx) _,
    fun x hx => Value.isPlain_single (hdistractors x hx) _⟩

end RankedSearch
