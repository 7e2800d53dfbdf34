/-! White space at the ends of a text. A character is blank when it has the Unicode property
White_Space: the zero-width space, the byte order mark and the information separators are not. -/

namespace RankedSearch.Text

def isBlank (c : Char) : Bool :=
  let n := c.toNat
  (0x09 ≤ n && n ≤ 0x0D) || n == 0x20 || n == 0x85 || n == 0xA0 || n == 0x1680 ||
    (0x2000 ≤ n && n ≤ 0x200A) || n == 0x2028 || n == 0x2029 || n == 0x202F || n == 0x205F ||
    n == 0x3000

/-- Drops the longest ending whose characters all satisfy `p`. -/
def dropEndWhile (p : Char → Bool) (cs : List Char) : List Char :=
  (cs.reverse.dropWhile p).reverse

def trimList (cs : List Char) : List Char := dropEndWhile isBlank (cs.dropWhile isBlank)

theorem dropEndWhile_isPrefix (p : Char → Bool) (cs : List Char) : dropEndWhile p cs <+: cs := by
  have h := (List.dropWhile_suffix p (l := cs.reverse)).reverse
  rwa [List.reverse_reverse] at h

theorem dropWhile_idem (p : Char → Bool) (cs : List Char) :
    (cs.dropWhile p).dropWhile p = cs.dropWhile p := by
  induction cs with
  | nil => rfl
  | cons c cs ih => by_cases h : p c <;> simp [h, ih]

theorem dropEndWhile_idem (p : Char → Bool) (cs : List Char) :
    dropEndWhile p (dropEndWhile p cs) = dropEndWhile p cs := by
  simp [dropEndWhile, dropWhile_idem]

/-- A prefix of a list that starts with no such character starts with none either. -/
theorem dropWhile_of_isPrefix {p : Char → Bool} {front cs : List Char}
    (h : front <+: cs.dropWhile p) : front.dropWhile p = front := by
  cases front with
  | nil => rfl
  | cons c front =>
    obtain ⟨rest, hr⟩ := h
    have hc : p c = false := by
      have hne : cs.dropWhile p ≠ [] := by rw [← hr]; simp
      have hhead := List.head_dropWhile_not p hne
      have : (cs.dropWhile p).head hne = c := by simp [← hr]
      simpa [this] using hhead
    simp [hc]

/-- Nothing is left to trim after trimming. -/
theorem trimList_trimList (cs : List Char) : trimList (trimList cs) = trimList cs := by
  have h : (trimList cs).dropWhile isBlank = trimList cs :=
    dropWhile_of_isPrefix (dropEndWhile_isPrefix isBlank _)
  unfold trimList at h ⊢
  rw [h, dropEndWhile_idem]

theorem dropWhile_of_forall {p : Char → Bool} {cs : List Char} (h : ∀ c ∈ cs, p c = false) :
    cs.dropWhile p = cs := by
  cases cs with
  | nil => rfl
  | cons c rest => rw [List.dropWhile_cons_of_neg (by simp [h c])]

theorem dropEndWhile_append_of_forall {p : Char → Bool} {front back : List Char}
    (h : ∀ c ∈ back, p c = true) : dropEndWhile p (front ++ back) = dropEndWhile p front := by
  unfold dropEndWhile
  rw [List.reverse_append, List.dropWhile_append_of_pos (by simpa using h)]

/-- What is dropped at the end is the longest ending of such characters. -/
theorem dropEndWhile_append {p : Char → Bool} {front back : List Char}
    (hfront : ∀ c ∈ front, p c = false) (hback : ∀ c ∈ back, p c = true) :
    dropEndWhile p (front ++ back) = front := by
  rw [dropEndWhile_append_of_forall hback, dropEndWhile, dropWhile_of_forall (by simpa using hfront),
    List.reverse_reverse]

/-- A text without blanks is trimmed. -/
theorem trimList_of_forall {cs : List Char} (h : ∀ c ∈ cs, isBlank c = false) :
    trimList cs = cs := by
  have hend : dropEndWhile isBlank (cs ++ []) = cs := dropEndWhile_append h (by simp)
  rw [List.append_nil] at hend
  rw [trimList, dropWhile_of_forall h, hend]

theorem forall_of_dropWhile_eq_nil {p : Char → Bool} {cs : List Char} (h : cs.dropWhile p = []) :
    ∀ c ∈ cs, p c = true := by
  induction cs with
  | nil => simp
  | cons c cs ih =>
    rw [List.dropWhile_cons] at h
    split at h
    · rename_i hc
      exact List.forall_mem_cons.mpr ⟨hc, ih h⟩
    · cases h

/-- A text with something else than blanks in it is not blank. -/
theorem trimList_ne_nil {c : Char} {cs : List Char} (hc : c ∈ cs) (h : isBlank c = false) :
    trimList cs ≠ [] := by
  intro hnil
  have hdrop : cs.dropWhile isBlank = [] := by
    have hall := forall_of_dropWhile_eq_nil (List.reverse_eq_nil_iff.mp hnil)
    cases hcs : cs.dropWhile isBlank with
    | nil => rfl
    | cons d ds =>
      have hne : cs.dropWhile isBlank ≠ [] := by simp [hcs]
      have hhead := List.head_dropWhile_not isBlank hne
      rw [hall _ (List.mem_reverse.mpr (List.head_mem hne))] at hhead
      cases hhead
  rw [forall_of_dropWhile_eq_nil hdrop c hc] at h
  cases h

def trim (s : String) : String := String.ofList (trimList s.toList)

/-- Drops every `c` at the end of the text. -/
def trimEndChar (c : Char) (s : String) : String :=
  String.ofList (dropEndWhile (· == c) s.toList)

@[simp] theorem toList_trim (s : String) : (trim s).toList = trimList s.toList := by simp [trim]

theorem trim_trim (s : String) : trim (trim s) = trim s := by
  simp only [trim, String.toList_ofList, trimList_trimList]

@[simp] theorem toList_trimEndChar (c : Char) (s : String) :
    (trimEndChar c s).toList = dropEndWhile (· == c) s.toList := by simp [trimEndChar]

end RankedSearch.Text
