import Mathlib.Data.List.Induction
import RankedSearch.Session.Pager

/-! # What happens to the mark of one item

A mark is set at once; its update is settled later, as confirmed or by putting back what the mark
had replaced. Updates of one item may overlap and settle in any order. `Updates` is the machine of
one item, and `Updates.converges_iff` says when the item ends as the service has it. -/
namespace RankedSearch.Session

inductive MarkEvent
  | marked
  | confirmed
  /-- An update failed, and what it had replaced was put back. -/
  | rolledBack (previous : Bool)
deriving DecidableEq, Repr

namespace MarkEvent

/-- What an item shows after an event. -/
def write (shown : Bool) : MarkEvent → Bool
  | .marked => true
  | .confirmed => shown
  | .rolledBack previous => previous

def settles : MarkEvent → Bool
  | .marked => false
  | .confirmed | .rolledBack _ => true

end MarkEvent

/-- What an item shows that was delivered with or without a mark. -/
def shown (delivered : Bool) (events : List MarkEvent) : Bool :=
  events.foldl MarkEvent.write delivered

/-- The last event that wrote to the item. -/
def lastWrite (events : List MarkEvent) : Option MarkEvent :=
  (events.filter (· != .confirmed)).getLast?

/-- No mark is set while an earlier one is not settled. -/
def Apart (events : List MarkEvent) : Prop :=
  ∀ before after, events = before ++ .marked :: after →
    before.countP MarkEvent.settles = before.count .marked

/-- The machine of one item: what has happened to it, and what its outstanding updates put back if
they fail. -/
inductive Updates (delivered : Bool) : List MarkEvent → List Bool → Prop
  | start : Updates delivered [] []
  | mark {events : List MarkEvent} {saved : List Bool} (h : Updates delivered events saved) :
      Updates delivered (events ++ [.marked]) (shown delivered events :: saved)
  | confirm {events : List MarkEvent} {saved : List Bool} {b : Bool}
      (h : Updates delivered events (b :: saved)) : Updates delivered (events ++ [.confirmed]) saved
  | rollBack {events : List MarkEvent} {saved : List Bool} {b : Bool}
      (h : Updates delivered events (b :: saved)) :
      Updates delivered (events ++ [.rolledBack b]) saved
  | perm {events : List MarkEvent} {saved saved' : List Bool} (h : Updates delivered events saved)
      (hp : saved.Perm saved') : Updates delivered events saved'

/-! ## The events one by one -/

@[simp] theorem shown_nil (d : Bool) : shown d [] = d := rfl

@[simp] theorem shown_snoc (d : Bool) (events : List MarkEvent) (e : MarkEvent) :
    shown d (events ++ [e]) = e.write (shown d events) := by simp [shown]

@[simp] theorem lastWrite_marked (events : List MarkEvent) :
    lastWrite (events ++ [.marked]) = some .marked := by simp [lastWrite]

@[simp] theorem lastWrite_confirmed (events : List MarkEvent) :
    lastWrite (events ++ [.confirmed]) = lastWrite events := by simp [lastWrite]

@[simp] theorem lastWrite_rolledBack (events : List MarkEvent) (b : Bool) :
    lastWrite (events ++ [.rolledBack b]) = some (.rolledBack b) := by simp [lastWrite]

theorem Apart.of_append {first second : List MarkEvent} (h : Apart (first ++ second)) :
    Apart first := by
  rintro before after rfl
  exact h before (after ++ second) (by simp)

theorem Apart.settled {events : List MarkEvent} (h : Apart (events ++ [.marked])) :
    events.countP MarkEvent.settles = events.count .marked := h events [] rfl

namespace Updates

variable {d : Bool} {events : List MarkEvent} {saved : List Bool}

/-- Each mark that is not settled is outstanding. -/
theorem length_add (h : Updates d events saved) :
    saved.length + events.countP MarkEvent.settles = events.count .marked := by
  induction h with
  | start => rfl
  | mark _ ih => simp [MarkEvent.settles]; omega
  | confirm _ ih => simp [MarkEvent.settles] at ih ⊢; omega
  | rollBack _ ih => simp [MarkEvent.settles] at ih ⊢; omega
  | perm _ hp ih => rw [← hp.length_eq]; exact ih

/-! ## Few marks -/

/-- An item that was not marked has no updates. -/
theorem eq_nil_of_unmarked (h : Updates d events saved) (hn : events.count .marked = 0) :
    events = [] ∧ saved = [] := by
  induction h with
  | start => exact ⟨rfl, rfl⟩
  | mark => simp at hn
  | confirm _ ih | rollBack _ ih => cases (ih (by simpa using hn)).2
  | perm _ hp ih =>
    obtain ⟨he, rfl⟩ := ih hn
    exact ⟨he, hp.nil_eq.symm⟩

/-- An item that was marked once has an update that is outstanding, or was settled one way or the
other. -/
theorem of_marked_once (h : Updates d events saved) (hn : events.count .marked = 1) :
    events = [.marked] ∧ saved = [d] ∨
      (events = [.marked, .confirmed] ∨ events = [.marked, .rolledBack d]) ∧ saved = [] := by
  induction h with
  | start => cases hn
  | mark h _ =>
    obtain ⟨rfl, rfl⟩ := h.eq_nil_of_unmarked (by simpa using hn)
    exact .inl ⟨rfl, rfl⟩
  | confirm _ ih =>
    rcases ih (by simpa using hn) with ⟨rfl, hsaved⟩ | ⟨_, hsaved⟩
    · cases hsaved
      exact .inr ⟨.inl rfl, rfl⟩
    · cases hsaved
  | rollBack _ ih =>
    rcases ih (by simpa using hn) with ⟨rfl, hsaved⟩ | ⟨_, hsaved⟩
    · cases hsaved
      exact .inr ⟨.inr rfl, rfl⟩
    · cases hsaved
  | perm _ hp ih =>
    rcases ih hn with ⟨he, rfl⟩ | ⟨he, rfl⟩
    · exact .inl ⟨he, List.perm_singleton.mp hp.symm⟩
    · exact .inr ⟨he, hp.nil_eq.symm⟩

/-! ## What the item shows -/

/-- An item that nothing was written to has not been marked. -/
theorem eq_nil_of_lastWrite (h : Updates d events saved) (hn : lastWrite events = none) :
    events = [] ∧ saved = [] := by
  induction h with
  | start => exact ⟨rfl, rfl⟩
  | mark | rollBack => simp at hn
  | confirm _ ih => cases (ih (by simpa using hn)).2
  | perm _ hp ih =>
    obtain ⟨he, rfl⟩ := ih hn
    exact ⟨he, hp.nil_eq.symm⟩

/-- The last mark is outstanding or was confirmed. -/
theorem of_lastWrite_marked (h : Updates d events saved)
    (hm : lastWrite events = some .marked) : saved ≠ [] ∨ .confirmed ∈ events := by
  induction h with
  | start => cases hm
  | mark => exact Or.inl (List.cons_ne_nil _ _)
  | confirm => exact Or.inr (by simp)
  | rollBack => simp at hm
  | perm _ hp ih =>
    refine (ih hm).imp_left fun hn he => hn ?_
    subst he
    exact hp.eq_nil

end Updates

/-- The last write is what the item shows. -/
theorem shown_eq (d : Bool) (events : List MarkEvent) :
    shown d events = ((lastWrite events).map (·.write d)).getD d := by
  induction events using List.reverseRecOn with
  | nil => rfl
  | append_singleton rest e ih =>
    cases e with
    | marked | rolledBack => simp [MarkEvent.write]
    | confirmed => simpa [MarkEvent.write] using ih

theorem mem_of_lastWrite {events : List MarkEvent} {e : MarkEvent} (h : lastWrite events = some e) :
    e ∈ events ∧ e ≠ .confirmed := by simpa using List.mem_of_getLast? h

namespace Updates

variable {d : Bool} {events : List MarkEvent} {saved : List Bool}

/-- **When an item ends as the service has it.** Once its updates are settled, an item shows a mark
just if it was delivered with one or an update was confirmed, exactly when the last event that wrote
to it was not an update putting back something else. -/
theorem converges_iff (h : Updates d events []) :
    ((shown d events = true ↔ d = true ∨ .confirmed ∈ events) ↔
      ∀ previous, lastWrite events = some (.rolledBack previous) →
        (previous = true ↔ d = true ∨ .confirmed ∈ events)) := by
  rw [shown_eq]
  cases hl : lastWrite events with
  | none => simp [(h.eq_nil_of_lastWrite hl).1]
  | some e =>
    cases e with
    | marked =>
      have := (h.of_lastWrite_marked hl).resolve_left (by simp)
      simp [MarkEvent.write, this]
    | confirmed => exact absurd rfl (mem_of_lastWrite hl).2
    | rolledBack previous => simp [MarkEvent.write]

/-- While updates do not overlap, at most one is outstanding, and it has saved what the service
has. -/
theorem of_apart (h : Updates d events saved) (ha : Apart events) :
    (saved = [] → (shown d events = true ↔ d = true ∨ .confirmed ∈ events)) ∧
      ∀ b ∈ saved, saved = [b] ∧ shown d events = true ∧
        (b = true ↔ d = true ∨ .confirmed ∈ events) := by
  induction h with
  | start => simp
  | @mark events saved h ih =>
    obtain ⟨hidle, _⟩ := ih ha.of_append
    have hnil : saved = [] := by
      have := h.length_add
      rw [ha.settled] at this
      exact List.eq_nil_of_length_eq_zero (by omega)
    subst hnil
    simpa [MarkEvent.write] using hidle rfl
  | @confirm events saved b _ ih =>
    obtain ⟨hone, hs, _⟩ := (ih ha.of_append).2 b (List.mem_cons_self ..)
    cases hone
    simp [MarkEvent.write, hs]
  | @rollBack events saved b _ ih =>
    obtain ⟨hone, _, hb⟩ := (ih ha.of_append).2 b (List.mem_cons_self ..)
    cases hone
    simpa [MarkEvent.write] using hb
  | perm _ hp ih =>
    obtain ⟨hidle, hbusy⟩ := ih ha
    refine ⟨fun he => hidle (by subst he; exact hp.eq_nil), fun b hb => ?_⟩
    obtain ⟨hone, hrest⟩ := hbusy b (hp.mem_iff.mpr hb)
    subst hone
    exact ⟨(List.perm_singleton.mp hp.symm), hrest⟩

/-- While updates do not overlap, an item shows a mark that was delivered, confirmed, or is on its
way. -/
theorem shown_iff_of_apart (h : Updates d events saved) (ha : Apart events) :
    shown d events = true ↔ d = true ∨ .confirmed ∈ events ∨ saved ≠ [] := by
  obtain ⟨hidle, hbusy⟩ := h.of_apart ha
  cases saved with
  | nil => rw [hidle rfl]; simp
  | cons b rest => simp [(hbusy b (List.mem_cons_self ..)).2.1]

end Updates

/-- An item shows a mark that nothing bears out if the last event that wrote to it was a mark, or an
update putting one back. -/
theorem shown_justified_iff (d : Bool) (events : List MarkEvent) :
    (shown d events = true → d = true ∨ .confirmed ∈ events) ↔
      (lastWrite events = some .marked ∨ lastWrite events = some (.rolledBack true) →
        d = true ∨ .confirmed ∈ events) := by
  rw [shown_eq]
  cases hl : lastWrite events with
  | none => simpa using Or.inl
  | some e =>
    cases e with
    | marked => simp [MarkEvent.write]
    | confirmed => exact absurd rfl (mem_of_lastWrite hl).2
    | rolledBack previous => simp [MarkEvent.write]

end RankedSearch.Session
