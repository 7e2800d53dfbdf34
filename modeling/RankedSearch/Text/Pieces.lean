/-! Lists cut at separators. -/

namespace RankedSearch.Text

variable {α : Type} [DecidableEq α]

/-- Cuts a list at every `separator`; there is one piece more than there are separators. -/
def pieces (separator : α) : List α → List (List α)
  | [] => [[]]
  | x :: rest =>
    if x = separator then [] :: pieces separator rest
    else
      match pieces separator rest with
      | [] => [[x]]
      | piece :: more => (x :: piece) :: more

theorem pieces_ne_nil (separator : α) (xs : List α) : pieces separator xs ≠ [] := by
  cases xs with
  | nil => simp [pieces]
  | cons x rest =>
    unfold pieces
    split
    · simp
    · split <;> simp

theorem pieces_of_not_mem {separator : α} {xs : List α} (h : separator ∉ xs) :
    pieces separator xs = [xs] := by
  induction xs with
  | nil => rfl
  | cons x rest ih =>
    rw [List.mem_cons, not_or] at h
    rw [pieces, if_neg (Ne.symm h.1), ih h.2]

/-- Cutting at one separator first and at the others then is the same. -/
theorem pieces_append (separator : α) (xs ys : List α) :
    pieces separator (xs ++ separator :: ys) = pieces separator xs ++ pieces separator ys := by
  induction xs with
  | nil => simp [pieces]
  | cons x rest ih =>
    rw [List.cons_append, pieces, pieces, ih]
    split
    · rfl
    · have hne := pieces_ne_nil separator rest
      generalize pieces separator rest = ps at hne
      cases ps with
      | nil => exact absurd rfl hne
      | cons p ps => rfl

/-- The first separator ends the first piece. -/
theorem pieces_append_cons {separator : α} {xs : List α} (h : separator ∉ xs) (ys : List α) :
    pieces separator (xs ++ separator :: ys) = xs :: pieces separator ys := by
  rw [pieces_append, pieces_of_not_mem h, List.singleton_append]

/-- Pieces without separators are found again. -/
theorem pieces_intercalate {separator : α} {parts : List (List α)} (hne : parts ≠ [])
    (h : ∀ part ∈ parts, separator ∉ part) :
    pieces separator (List.intercalate [separator] parts) = parts := by
  induction parts with
  | nil => exact absurd rfl hne
  | cons part rest ih =>
    obtain ⟨hpart, hrest⟩ := List.forall_mem_cons.mp h
    cases rest with
    | nil => rw [List.intercalate_singleton, pieces_of_not_mem hpart]
    | cons next more =>
      rw [List.intercalate_cons_cons, List.append_assoc, List.singleton_append,
        pieces_append_cons hpart, ih (by simp) hrest]

/-- What stands before and after the first `separator`; nothing stands after it if there is none. -/
def splitFirst (separator : α) (xs : List α) : List α × List α :=
  (xs.takeWhile (· != separator), (xs.dropWhile (· != separator)).drop 1)

theorem bne_of_not_mem {separator : α} {xs : List α} (h : separator ∉ xs) :
    ∀ x ∈ xs, (x != separator) = true := by
  intro x hx
  rw [bne_iff_ne]
  rintro rfl
  exact h hx

theorem splitFirst_of_not_mem {separator : α} {xs : List α} (h : separator ∉ xs) :
    splitFirst separator xs = (xs, []) := by
  have htake := @List.takeWhile_append_of_pos α (· != separator) xs [] (bne_of_not_mem h)
  have hdrop := @List.dropWhile_append_of_pos α (· != separator) xs [] (bne_of_not_mem h)
  rw [List.append_nil] at htake hdrop
  unfold splitFirst
  rw [htake, hdrop]
  simp

theorem splitFirst_append {separator : α} {xs : List α} (h : separator ∉ xs) (ys : List α) :
    splitFirst separator (xs ++ separator :: ys) = (xs, ys) := by
  unfold splitFirst
  rw [List.takeWhile_append_of_pos (bne_of_not_mem h),
    List.dropWhile_append_of_pos (bne_of_not_mem h)]
  simp

end RankedSearch.Text
