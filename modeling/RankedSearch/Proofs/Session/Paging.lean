import Mathlib.Data.List.Chain
import RankedSearch.Proofs.Session.Outstanding

/-! # Pages come in order, each once

Whatever numbers and totals the service reports, the list is what the replies to the page fetches
brought, one after the other. The reason is that a fetch that is outstanding asks for the page right
after the cursor (`Accounted.requested`), so that no reply is one that the cursor has passed. -/
namespace RankedSearch.Session

/-- A page that came: the number that was asked for, and what the service sent. -/
abbrev Reply := UInt32 × Page

def Input.reply? : Input → Option Reply
  | .answered (.fetched requested (.ok page)) => some (requested, page)
  | _ => none

theorem Input.reply?_of_answer? {i : Input} (h : i.answer? = none) : i.reply? = none := by
  cases i <;> first | rfl | cases h

/-- What answers the call for training or for ranking. -/
theorem Answer.of_called {a : Answer} (h : a.task = .train ∨ a.task = .rank) :
    (∃ result, a = .trained result) ∨ ∃ result, a = .ranked result := by
  cases a with
  | trained result => exact Or.inl ⟨result, rfl⟩
  | ranked result => exact Or.inr ⟨result, rfl⟩
  | fetched | flagged | refreshed => simp [task] at h

theorem Input.reply?_of_called {a : Answer} (h : a.task = .train ∨ a.task = .rank) :
    (Input.answered a).reply? = none := by
  rcases Answer.of_called h with ⟨_, rfl⟩ | ⟨_, rfl⟩ <;> rfl

/-- A page comes only while it is being fetched. -/
theorem Running.fetch_mem_of_reply? {s : Running} {i : Input} {r : Reply} (hi : i.reply? = some r)
    (ha : s.Accepts i) : .fetch r.1 ∈ s.tasks := by
  unfold Input.reply? at hi
  split at hi
  · cases hi
    exact ha
  · cases hi

/-- The successful replies to page fetches, in the order in which they came. -/
def replies (history : List Event) : List Reply := history.filterMap (·.input.reply?)

namespace Reply

/-- The number of a page: the one that was asked for, or the one reported if it is larger. -/
def number (r : Reply) : UInt32 := max r.2.number r.1

/-- A reply to the request for the page right after another reply. -/
def Follows (r r' : Reply) : Prop := r'.1.toNat = r.number.toNat + 1

end Reply

/-- The number of the last page that came, 0 before the first. -/
def lastNumber (rs : List Reply) : UInt32 := (rs.getLast?.map Reply.number).getD 0

/-- The total that the last page reported, 0 before the first. -/
def lastCount (rs : List Reply) : UInt32 := (rs.getLast?.map (·.2.count)).getD 0

theorem replies_snoc (history : List Event) (e : Event) :
    replies (history ++ [e]) = replies history ++ e.input.reply?.toList := by
  cases h : e.input.reply? <;> simp [replies, h]

/-! ## Marks aside -/

/-- An item without its mark. -/
def unmarked (x : Item) : Item := { x with falseNegative := false }

namespace Pager

theorem items_setMark_unmarked (p : Pager) (index : Nat) (value : Bool) :
    (p.setMark index value).items.map unmarked = p.items.map unmarked := by
  apply List.ext_getElem?
  intro j
  simp only [setMark, List.getElem?_map, List.getElem?_modify]
  by_cases hj : index = j
  · cases p.items[j]? <;> simp [hj, unmarked]
  · simp [hj]

theorem items_revert_unmarked (p : Pager) (patch : Patch) :
    (p.revert patch).items.map unmarked = p.items.map unmarked := by
  rcases p.revert_eq_or patch with h | h <;> rw [h]
  exact p.items_setMark_unmarked _ _

theorem items_settle_confirmed (p : Pager) (patch : Patch) (precision : Option Precision) :
    (p.settle patch (.confirmed precision)).items = p.items := by
  cases precision <;> rfl

theorem le_max_requested (number requested : UInt32) : requested ≤ max number requested := by
  change requested ≤ if number ≤ requested then requested else number
  split
  · exact UInt32.le_refl _
  · rename_i h; exact UInt32.le_of_lt (UInt32.not_le.mp h)

/-- A reply to the request for the next page is appended. -/
theorem completeFetch_eq {p : Pager} {requested : UInt32} (page : Page)
    (h : requested.toNat = p.currentPage.toNat + 1) :
    ¬ (p.currentPage ≠ 0 ∧ max page.number requested ≤ p.currentPage) ∧
    p.completeFetch requested page =
      { items := p.items ++ page.items
        revision := p.revision + 1
        currentPage := max page.number requested
        pageCount := page.count
        visited := page.visited
        precision := some page.precision
        loading := false } := by
  have hn : ¬ (p.currentPage ≠ 0 ∧ max page.number requested ≤ p.currentPage) := by
    rintro ⟨_, hle⟩
    have hr : requested ≤ p.currentPage := UInt32.le_trans (le_max_requested _ _) hle
    have := UInt32.le_iff_toNat_le.mp hr
    omega
  exact ⟨hn, if_neg hn⟩

/-- What a reply adds to the list: its page, unless the cursor has passed it. -/
def brought (p : Pager) (r : Reply) : List Item :=
  if p.currentPage ≠ 0 ∧ max r.2.number r.1 ≤ p.currentPage then [] else r.2.items

theorem items_completeFetch (p : Pager) (requested : UInt32) (page : Page) :
    (p.completeFetch requested page).items = p.items ++ p.brought (requested, page) := by
  unfold completeFetch brought
  dsimp only
  split
  · rw [List.append_nil]
  · rfl

end Pager

/-- No reply that can come is one that the cursor has passed. -/
theorem Accounted.brought_eq {s : Running} (h : Accounted s) {i : Input} (ha : s.Accepts i) :
    i.reply?.toList.flatMap s.pager.brought = i.reply?.toList.flatMap (·.2.items) := by
  cases hi : i.reply? with
  | none => rfl
  | some r =>
    have hm := Running.fetch_mem_of_reply? hi ha
    have hnew := (Pager.completeFetch_eq r.2 (h.requested_toNat hm)).1
    simp [Pager.brought, hnew]

/-! ## The list and its replies -/

/-- The list holds what the replies brought, and the cursor stands on the last of them. -/
structure Paged (rs : List Reply) (p : Pager) : Prop where
  items : p.items.map unmarked = (rs.flatMap (·.2.items)).map unmarked
  currentPage : p.currentPage = lastNumber rs
  pageCount : p.pageCount = lastCount rs

namespace Paged

variable {rs : List Reply} {p q : Pager}

theorem congr (h : Paged rs p) (hi : q.items.map unmarked = p.items.map unmarked)
    (hc : q.currentPage = p.currentPage) (hn : q.pageCount = p.pageCount) : Paged rs q :=
  ⟨hi.trans h.items, hc.trans h.currentPage, hn.trans h.pageCount⟩

theorem load (h : Paged rs p) {requested : UInt32} (page : Page)
    (hr : requested.toNat = p.currentPage.toNat + 1) :
    Paged (rs ++ [(requested, page)]) (p.completeFetch requested page) := by
  rw [(Pager.completeFetch_eq page hr).2]
  exact ⟨by simp [h.items], by simp [lastNumber, Reply.number], by simp [lastCount]⟩

theorem react {s s' : Running} {i : Input} {started : List Task} (h : Paged rs s.pager)
    (hacc : Accounted s) (ha : s.Accepts i) (hr : s.Reacts i s' started) :
    Paged (rs ++ i.reply?.toList) s'.pager := by
  -- only the reply to a fetch adds to the replies
  have hquiet : ∀ {i : Input}, i.reply? = none → Paged (rs ++ i.reply?.toList) s.pager := by
    intro i hi; rw [hi, Option.toList_none, List.append_nil]; exact h
  cases hr with
  | shown _ hi _ => exact hquiet (Input.reply?_of_answer? hi)
  | heard _ hi _ _ => exact hquiet (Input.reply?_of_answer? hi)
  | call _ hi _ _ _ => exact hquiet (Input.reply?_of_answer? hi)
  | fetch _ hi _ _ => exact (hquiet (Input.reply?_of_answer? hi)).congr rfl rfl rfl
  | @flags c v _ =>
    refine Running.startFlags_induction
      (P := fun s _ => Paged (rs ++ (Input.command c).reply?.toList) s.pager) _ (hquiet rfl) ?_
    intro s _ index _ _ ih
    exact ih.congr (s.pager.items_setMark_unmarked index true) rfl rfl
  | called _ hcall => exact hquiet (Input.reply?_of_called hcall)
  | loaded requested page => exact h.load page (hacc.requested_toNat ha)
  | missed => exact (hquiet rfl).congr rfl rfl rfl
  | accepted => exact hquiet rfl
  | refused patch _ _ =>
    exact (hquiet rfl).congr (s.pager.items_revert_unmarked patch) (by simp) (by simp)
  | confirmed patch _ precision =>
    exact (hquiet rfl).congr (by rw [Pager.items_settle_confirmed]) (by simp) (by simp)

end Paged

theorem Run.paged {route : Query.Route} {history : List Event} {s : Running}
    (r : Run route history s) : Paged (replies history) s.pager := by
  induction r with
  | refl => exact ⟨rfl, rfl, rfl⟩
  | @step history s i r h ih =>
    rw [replies_snoc]
    show Paged _ (s.react i).1.pager
    exact ih.react (Run.accounted r) h (s.reacts i)

theorem Run.follows {route : Query.Route} {history : List Event} {s : Running}
    (r : Run route history s) :
    (∀ x ∈ (replies history).head?, x.1 = 1) ∧ (replies history).IsChain Reply.Follows := by
  induction r with
  | refl => exact ⟨by simp [replies], .nil⟩
  | @step history s i r h ih =>
    rw [replies_snoc]
    cases hi : i.reply? with
    | none => simpa using ih
    | some x =>
      have hm := Running.fetch_mem_of_reply? hi h
      have hn := (Run.accounted r).requested_toNat hm
      rw [(Run.paged r).currentPage] at hn
      refine ⟨?_, ?_⟩
      · cases hr : replies history with
        | nil =>
          rw [hr] at hn
          simpa using UInt32.toNat_inj.mp hn
        | cons y rest => rw [hr] at ih; simpa using ih.1
      · refine List.isChain_append.mpr ⟨ih.2, .singleton _, fun y hy z hz => ?_⟩
        cases Option.mem_some_iff.mp hz
        rw [lastNumber, Option.mem_def.mp hy] at hn
        exact hn

/-! ## What is asked for -/

/-- A fetch that is started is the only task started, and for the next page. -/
theorem Running.Reacts.of_fetch_mem {s s' : Running} {i : Input} {started : List Task}
    {page : UInt32} (hr : s.Reacts i s' started) (hm : .fetch page ∈ started) :
    s.pager.nextPage = some page ∧ started = [.fetch page] := by
  cases hr with
  | fetch _ _ _ hp =>
    cases List.mem_singleton.mp hm
    exact ⟨hp, rfl⟩
  | call _ _ _ _ hc =>
    rw [← List.mem_singleton.mp hm] at hc
    cases (Action.call?_eq_some hc).2
  | flags v _ =>
    refine absurd hm (startFlags_induction (P := fun _ started => .fetch page ∉ started) _
      (List.not_mem_nil) fun _ _ index item _ ih => ?_)
    simpa using ih
  | shown | heard | called | loaded | missed | accepted | refused | confirmed => simp at hm

/-- The next page stays the next until it is fetched. -/
theorem Running.Reacts.nextPage_eq {s s' : Running} {i : Input} {started : List Task}
    {page : UInt32} (hr : s.Reacts i s' started) (h : Accounted s) (ha : s.Accepts i)
    (hn : s.pager.nextPage = some page) (hno : ∀ n, .fetch n ∉ started) :
    s'.pager.nextPage = some page := by
  have hidle {n : UInt32} : Task.fetch n ∉ s.tasks := by
    intro hm
    have := h.loading_iff.mpr ⟨n, hm⟩
    rw [(Pager.nextPage_eq_some hn).1] at this
    cases this
  cases hr with
  | shown | heard | call | called | accepted => exact hn
  | fetch => exact absurd (List.mem_singleton_self _) (hno _)
  | flags v _ =>
    exact startFlags_induction (P := fun s _ => s.pager.nextPage = some page) _ hn
      fun _ _ index item _ ih => ih
  | loaded | missed => exact absurd ha hidle
  | refused patch _ _ => exact (Pager.nextPage_revert _ _).trans hn
  | confirmed patch _ precision => exact (Pager.nextPage_settle _ _ _).trans hn

theorem Running.Runs.nextPage_eq {s t : Running} {history : List Event} {page : UInt32}
    (r : s.Runs history t) (h : Accounted s) (hn : s.pager.nextPage = some page)
    (hno : ∀ e ∈ history, ∀ n, .fetch n ∉ e.started) : t.pager.nextPage = some page := by
  induction r with
  | refl => exact hn
  | @step history t i r ha ih =>
    have hold := ih fun e he => hno e (List.mem_append_left _ he)
    exact (t.reacts i).nextPage_eq (r.accounted h) ha hold
      (hno _ (List.mem_append_right _ (List.mem_singleton_self _)))

/-- **Paging loses, repeats and reorders nothing.** The first page that came was asked for as page 1
and each later one as the page after the one before it, whatever numbers the service reported. The
list, marks aside, is what the pages brought in this order, and number and total are those of the
last. A further reply is never taken for a page that came already; after a failure all is as it was
and the next fetch asks for the same page. A fetch is only started while none is outstanding and
unless all pages have come, and its number does not wrap around. -/
theorem Run.pages_in_order {route : Query.Route} {history : List Event} {s : Running}
    (r : Run route history s) :
    (∀ x ∈ (replies history).head?, x.1 = 1) ∧ (replies history).IsChain Reply.Follows ∧
    s.pager.items.map unmarked =
      ((replies history).flatMap (·.2.items)).map unmarked ∧
    s.pager.currentPage = lastNumber (replies history) ∧
    s.pager.pageCount = lastCount (replies history) ∧
    (∀ requested page, s.Accepts (.answered (.fetched requested (.ok page))) →
      ¬ (s.pager.currentPage ≠ 0 ∧ max page.number requested ≤ s.pager.currentPage)) ∧
    (∀ requested fault t, s.Accepts (.answered (.fetched requested (.error fault))) →
      t = (s.step (.answered (.fetched requested (.error fault)))).1 →
      t.pager.items = s.pager.items ∧ t.pager.currentPage = s.pager.currentPage ∧
        t.pager.pageCount = s.pager.pageCount ∧
        ∀ later u i page, t.Runs later u → (∀ e ∈ later, ∀ n, .fetch n ∉ e.started) →
          .fetch page ∈ (u.step i).2 → page = requested) ∧
    (∀ i page, .fetch page ∈ (s.step i).2 →
      (s.step i).2 = [.fetch page] ∧ (∀ n, .fetch n ∉ s.tasks) ∧
        (s.pager.currentPage = 0 ∨ s.pager.currentPage < s.pager.pageCount)) ∧
    ∀ page, s.pager.nextPage = some page → page.toNat = s.pager.currentPage.toNat + 1 := by
  have hacc := Run.accounted r
  have hpaged := Run.paged r
  refine ⟨(Run.follows r).1, (Run.follows r).2, hpaged.items, hpaged.currentPage, hpaged.pageCount,
    fun requested page ha => (Pager.completeFetch_eq page (hacc.requested_toNat ha)).1, ?_, ?_,
    fun page hp => (Pager.nextPage_eq_some hp).2.2⟩
  · rintro requested fault t ha rfl
    refine ⟨rfl, rfl, rfl, fun later u i page hu hno hm => ?_⟩
    have hstart := hacc.react ha (s.reacts _)
    have hkept := hu.nextPage_eq ⟨hstart.pending, hstart.fetches, hstart.requested, hstart.latched⟩
      (hacc.requested _ ha) hno
    rw [((u.reacts i).of_fetch_mem hm).1] at hkept
    exact Option.some.inj hkept
  · intro i page hm
    obtain ⟨hp, hone⟩ := (s.reacts i).of_fetch_mem hm
    obtain ⟨hidle, hleft, _⟩ := Pager.nextPage_eq_some hp
    refine ⟨hone, fun n hn => ?_, hleft⟩
    rw [hacc.loading_iff.mpr ⟨n, hn⟩] at hidle
    cases hidle

/-- A service that numbers its first page 0, fails once and then skips to page 5. -/
theorem Run.pages_in_order_renumbered :
    ∃ history s, Run sampleRoute history s ∧
      replies history = [(1, samplePage 0 3 "a.jpg"), (2, samplePage 5 9 "b.jpg")] ∧
      s.pager.items.map Item.path = ["a.jpg", "b.jpg"] ∧
      s.pager.currentPage = lastNumber (replies history) ∧ lastNumber (replies history) = 5 := by
  have h : (Running.init sampleRoute).replay
      [.notified ⟨sampleRoute.id, .stage .ranked⟩,
        .answered (.fetched 1 (.ok (samplePage 0 3 "a.jpg"))), .command .loadMore,
        .answered (.fetched 2 (.error .transport)), .command .loadMore,
        .answered (.fetched 2 (.ok (samplePage 5 9 "b.jpg")))] = some (_, _) := rfl
  have r : Run sampleRoute _ _ := .of_replay h
  exact ⟨_, _, r, rfl, rfl, (Run.pages_in_order r).2.2.2.1, rfl⟩

end RankedSearch.Session
