import RankedSearch.Proofs.Json.RankedPages

/-! # Records in any text

A record is an object that names no member twice. Its fields are found by their names in whatever
order its members stand, whichever others stand among them and however its text is spelled. -/
namespace RankedSearch.Json

open RankedSearch.Json.Parser

/-! ## Integers -/

namespace Literal

def ofInt (k : Int) : Literal := ⟨k < 0, ⟨k.natAbs, 0⟩, true⟩

theorem toInt?_ofInt {k : Int} (hlow : -2 ^ 63 ≤ k) (hhigh : k < 2 ^ 64) :
    (ofInt k).toInt? = some k := by
  unfold toInt? ofInt
  by_cases hk : k < 0
  · have hbound : 0 < k.natAbs ∧ k.natAbs ≤ 1 <<< 63 := by omega
    simp only [hk, decide_true, if_true, true_and, hbound.1, hbound.2]
    exact congrArg some (by omega)
  · have hbound : k.natAbs < UInt64.size := by
      have hsize : UInt64.size = 2 ^ 64 := rfl
      omega
    have hnat : (k.natAbs : Int) = k := Int.natAbs_of_nonneg (by omega)
    simp [hk, toNat?, hbound, hnat]

end Literal

namespace Value

def integer (k : Int) : Value := .number (.ofInt k)

@[simp] theorem settled_integer (k : Int) : (integer k).settled = integer k := rfl

end Value

/-! ## Records -/

/-- The texts that write a record of the given members, each with a name of its own. -/
structure Record (members : List (String × Value)) (s : String) : Prop where
  nodup : (members.map Prod.fst).Nodup
  document : Document (.record members) s

theorem Record.parse? {members : List (String × Value)} {s : String} (h : Record members s) :
    parse? s = some (.record members) := h.document.read

/-- A printed record, where it has no numbers that lose digits. -/
theorem record_render {members : List (String × Value)} (hnodup : (members.map Prod.fst).Nodup)
    (hwritten : (Value.record members).isWritten = true)
    (hsame : (Value.record members).reread = .record members) :
    Record members (Value.record members).render := by
  have hdocument := document_render hwritten
  rw [hsame] at hdocument
  exact ⟨hnodup, hdocument⟩

theorem fieldOf_of_not_mem {members : List (String × Value)} {name : String}
    (h : ∀ v, (name, v) ∉ members) :
    fieldOf (members.map fun (name, value) => (some name, value)) name = some none := by
  have hfilter : (members.map fun (name, value) => (some name, value)).filter
      (fun other => other.1 = some name) = [] := by
    rw [List.filter_eq_nil_iff]
    intro other hother hsame
    obtain ⟨⟨name', v⟩, hm, rfl⟩ := List.mem_map.mp hother
    have hname : name' = name := by simpa using hsame
    exact h v (hname ▸ hm)
  unfold fieldOf
  rw [hfilter]

namespace Value

theorem eq_bool_of_settled {v : Value} {b : Bool} (h : v.settled = .bool b) : v = .bool b := by
  cases v with
  | array items => cases h
  | object members => cases h
  | null | bool | number | string => exact h

theorem mem_of_get? {members : List (String × Value)} {name : String} {v : Value}
    (h : (record members).get? name = some v) : (name, v) ∈ members := by
  obtain ⟨other, hfound, rfl⟩ := Option.map_eq_some_iff.mp h
  have hname := List.find?_some hfound
  have hmem := List.mem_reverse.mp (List.mem_of_find?_eq_some hfound)
  obtain ⟨m, hm, rfl⟩ := List.mem_map.mp hmem
  have hname : m.1 = name := Option.some.inj (of_decide_eq_true hname)
  exact hname ▸ hm

end Value

/-! ## Bodies -/

theorem isBlank_of_isDigit {c : Char} (h : c.isDigit = true) : Text.isBlank c = false := by
  have hrange : 48 ≤ c.toNat ∧ c.toNat ≤ 57 := by
    simpa [Char.isDigit, UInt32.le_iff_toNat_le] using h
  simp only [Text.isBlank, Bool.or_eq_false_iff, Bool.and_eq_false_iff, decide_eq_false_iff_not,
    beq_eq_false_iff_ne]
  omega

/-- The text of a value is not blank. -/
theorem Writing.exists_not_blank : ∀ {v : Value} {text : List Char}, Writing v text →
    ∃ c ∈ text, Text.isBlank c = false
  | _, _, .after _ h => by
    obtain ⟨c, hc, hblank⟩ := h.exists_not_blank
    exact ⟨c, List.mem_append_right _ hc, hblank⟩
  | _, _, .number n => by
    obtain ⟨c, cs, hcons, hc⟩ := exists_literal_cons n
    rw [hcons]
    refine ⟨c, List.mem_cons_self .., ?_⟩
    rcases hc with rfl | hc
    · rfl
    · exact isBlank_of_isDigit hc
  | _, _, .null | _, _, .yes | _, _, .no | _, _, .string _ | _, _, .noItems _ | _, _, .items _
  | _, _, .noMembers _ | _, _, .members _ => ⟨_, List.mem_cons_self .., rfl⟩

theorem Document.trim_ne {v : Value} {s : String} (h : Document v s) : Text.trim s ≠ "" := by
  obtain ⟨h, _⟩ := h
  obtain ⟨c, hc, hblank⟩ := h.exists_not_blank
  intro htrim
  have hlist := congrArg String.toList htrim
  rw [Text.toList_trim, String.toList_ofList] at hlist
  exact Text.trimList_ne_nil (List.mem_append_left _ hc) hblank hlist

end RankedSearch.Json
