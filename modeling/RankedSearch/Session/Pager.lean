import RankedSearch.Ranking
import RankedSearch.Service.Fault

/-! The ranked list as far as it is loaded, and the cursor of its pages. Page 0 means that nothing
is loaded yet, and pages are only ever appended. Marks are set at once and taken back if the service
does not accept them. -/

namespace RankedSearch.Session

open RankedSearch.Service (Fault)

structure Pager where
  items : List Item := []
  /-- Counts the changes of `items`. -/
  revision : Nat := 0
  currentPage : UInt32 := 0
  pageCount : UInt32 := 0
  visited : UInt64 := 0
  precision : Option Precision := none
  /-- A page is being fetched. -/
  loading : Bool := false
deriving DecidableEq, Repr

/-- Why no page is fetched. -/
inductive Refusal
  | inFlight
  | exhausted
deriving DecidableEq, Repr

/-- A mark that was set, and what was there before. -/
structure Patch where
  index : Nat
  path : String
  previous : Bool
deriving DecidableEq, Repr

/-- How the service took a mark. Accepted marks bring fresh precision figures if they can be had. -/
inductive FlagOutcome
  | confirmed (precision : Option Precision)
  | failed (fault : Fault)
deriving DecidableEq, Repr

namespace Pager

/-- The page to fetch next. -/
def nextPage (p : Pager) : Option UInt32 :=
  if p.loading then none
  else if p.currentPage = 0 then some 1
  else if p.pageCount ≤ p.currentPage then none
  else some (p.currentPage + 1)

def beginFetch (p : Pager) : Except Refusal (UInt32 × Pager) :=
  if p.loading then .error .inFlight
  else
    match p.nextPage with
    | some page => .ok (page, { p with loading := true })
    | none => .error .exhausted

/-- Appends the reply to a fetch of page `requested`. The cursor moves to the larger of that number
and the one the service reports; a page that the cursor has passed is dropped. -/
def completeFetch (p : Pager) (requested : UInt32) (page : Page) : Pager :=
  let number := max page.number requested
  if p.currentPage ≠ 0 ∧ number ≤ p.currentPage then { p with loading := false }
  else
    { items := p.items ++ page.items
      revision := p.revision + 1
      currentPage := number
      pageCount := page.count
      visited := page.visited
      precision := some page.precision
      loading := false }

def abortFetch (p : Pager) : Pager := { p with loading := false }

def setMark (p : Pager) (index : Nat) (value : Bool) : Pager :=
  { p with
    items := p.items.modify index fun item => { item with falseNegative := value }
    revision := p.revision + 1 }

/-- Marks the item at `index`, if there is one. -/
def mark (p : Pager) (index : Nat) : Option (Patch × Pager) :=
  (p.items[index]?).map fun item =>
    (⟨index, item.path, item.falseNegative⟩, p.setMark index true)

/-- Puts back what a patch replaced, if its item is still the one at its place. -/
def revert (p : Pager) (patch : Patch) : Pager :=
  match p.items[patch.index]? with
  | some item => if item.path = patch.path then p.setMark patch.index patch.previous else p
  | none => p

/-- The distractors after the last marked item, from the end. -/
def tailDistractors (p : Pager) : List Nat :=
  ((p.items.zipIdx.reverse.takeWhile fun (item, _) => !item.falseNegative).filter
    fun (item, _) => item.isDistractor).map (·.2)

def settle (p : Pager) (patch : Patch) : FlagOutcome → Pager
  | .confirmed (some precision) =>
    { p with precision := some precision, visited := precision.visited }
  | .confirmed none => p
  | .failed _ => p.revert patch

/-! ## What marks leave alone -/

@[simp] theorem currentPage_setMark (p : Pager) (index : Nat) (value : Bool) :
    (p.setMark index value).currentPage = p.currentPage := rfl

@[simp] theorem pageCount_setMark (p : Pager) (index : Nat) (value : Bool) :
    (p.setMark index value).pageCount = p.pageCount := rfl

@[simp] theorem loading_setMark (p : Pager) (index : Nat) (value : Bool) :
    (p.setMark index value).loading = p.loading := rfl

/-- A revert sets the mark as it was, or does nothing. -/
theorem revert_eq_or (p : Pager) (patch : Patch) :
    p.revert patch = p.setMark patch.index patch.previous ∨ p.revert patch = p := by
  unfold revert
  split
  · split
    · exact Or.inl rfl
    · exact Or.inr rfl
  · exact Or.inr rfl

@[simp] theorem currentPage_revert (p : Pager) (patch : Patch) :
    (p.revert patch).currentPage = p.currentPage := by
  rcases p.revert_eq_or patch with h | h <;> simp [h]

@[simp] theorem pageCount_revert (p : Pager) (patch : Patch) :
    (p.revert patch).pageCount = p.pageCount := by
  rcases p.revert_eq_or patch with h | h <;> simp [h]

@[simp] theorem loading_revert (p : Pager) (patch : Patch) :
    (p.revert patch).loading = p.loading := by
  rcases p.revert_eq_or patch with h | h <;> simp [h]

@[simp] theorem currentPage_settle (p : Pager) (patch : Patch) (outcome : FlagOutcome) :
    (p.settle patch outcome).currentPage = p.currentPage := by
  rcases outcome with (_ | _) | _ <;> simp [settle]

@[simp] theorem pageCount_settle (p : Pager) (patch : Patch) (outcome : FlagOutcome) :
    (p.settle patch outcome).pageCount = p.pageCount := by
  rcases outcome with (_ | _) | _ <;> simp [settle]

@[simp] theorem loading_settle (p : Pager) (patch : Patch) (outcome : FlagOutcome) :
    (p.settle patch outcome).loading = p.loading := by
  rcases outcome with (_ | _) | _ <;> simp [settle]

@[simp] theorem loading_completeFetch (p : Pager) (requested : UInt32) (page : Page) :
    (p.completeFetch requested page).loading = false := by
  unfold completeFetch
  dsimp only
  split <;> rfl

/-! ## What the operations do to the list -/

@[simp] theorem items_setMark_length (p : Pager) (index : Nat) (value : Bool) :
    (p.setMark index value).items.length = p.items.length := by simp [setMark]

@[simp] theorem items_abortFetch (p : Pager) : p.abortFetch.items = p.items := rfl

theorem beginFetch_eq_ok {p q : Pager} {page : UInt32} (h : p.beginFetch = .ok (page, q)) :
    p.loading = false ∧ p.nextPage = some page ∧ q = { p with loading := true } := by
  unfold beginFetch at h
  split at h
  · cases h
  · rename_i hl
    split at h
    · rename_i n hn
      cases h
      exact ⟨by simpa using hl, hn, rfl⟩
    · cases h

end Pager

end RankedSearch.Session
