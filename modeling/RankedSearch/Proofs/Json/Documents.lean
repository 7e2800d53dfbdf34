import Mathlib.Data.List.Nodup
import RankedSearch.Proofs.Json.ReadBack
import RankedSearch.Proofs.Number.Bounds

/-! # Printed documents

What becomes of a record as it is printed and read as a document: its fields are found again, in the
same order and with the same texts and integers. A finite number reads as a finite one, though not
always as the same. -/
namespace RankedSearch.Json

open RankedSearch.Number

/-! ## Integers -/

namespace Parser

theorem le_ofDigitChars (digits : List Char) (n : Nat) : n ≤ Nat.ofDigitChars 10 digits n := by
  induction digits generalizing n with
  | nil => exact Nat.le_refl n
  | cons c digits ih =>
    rw [Nat.ofDigitChars_cons]
    have := ih (10 * n + (c.toNat - '0'.toNat))
    omega

/-- Digits that 64 bits hold are all read. -/
theorem gather_of_lt {digits : List Char} {n : Nat}
    (h : Nat.ofDigitChars 10 digits n < UInt64.size) :
    gather n digits = (Nat.ofDigitChars 10 digits n, digits.length) := by
  induction digits generalizing n with
  | nil => rfl
  | cons c digits ih =>
    rw [Nat.ofDigitChars_cons, Nat.mul_comm] at h ⊢
    have hmore := Nat.lt_of_le_of_lt (le_ofDigitChars digits _) h
    unfold gather
    dsimp only
    rw [if_pos hmore, ih h]
    rfl

theorem gather_lt {n : Nat} (h : n < UInt64.size) (digits : List Char) :
    (gather n digits).1 < UInt64.size := by
  induction digits generalizing n with
  | nil => exact h
  | cons c digits ih =>
    unfold gather
    dsimp only
    split
    · rename_i hmore
      exact ih hmore
    · exact h

end Parser

/-- A number of 64 bits reads as it was printed. -/
theorem Literal.reread_of_lt {n : Literal} (h : n.decimal.digits < UInt64.size)
    (hexp : n.integral = true → n.decimal.exponent = 0) : n.reread = n := by
  have hgather : Parser.gather 0 (Printer.nat n.decimal.digits) =
      (n.decimal.digits, (Printer.nat n.decimal.digits).length) := by
    have hvalue := Parser.natOf_nat n.decimal.digits
    rw [← hvalue] at h
    rw [Parser.gather_of_lt h]
    exact congrArg (·, _) hvalue
  obtain ⟨negative, ⟨digits, exponent⟩, integral⟩ := n
  dsimp only at hgather hexp
  unfold reread
  dsimp only
  rw [hgather]
  cases integral with
  | true =>
    cases hexp rfl
    simp
  | false => simp

namespace Value

theorem reread_nat {n : Nat} (h : n < UInt64.size) : (nat n).reread = nat n :=
  congrArg number (Literal.reread_of_lt h fun _ => rfl)

/-! ## Lists and records -/

@[simp] theorem reread_text (s : String) : (text s).reread = text s := rfl
@[simp] theorem reread_bool (b : Bool) : (bool b).reread = bool b := rfl
@[simp] theorem settled_text (s : String) : (text s).settled = text s := rfl
@[simp] theorem settled_bool (b : Bool) : (bool b).settled = bool b := rfl
@[simp] theorem settled_nat (n : Nat) : (nat n).settled = nat n := rfl
@[simp] theorem isWritten_text (s : String) : (text s).isWritten = true := rfl
@[simp] theorem isWritten_bool (b : Bool) : (bool b).isWritten = true := rfl
@[simp] theorem isWritten_nat (n : Nat) : (nat n).isWritten = true := rfl
@[simp] theorem isPlain_text (depth : Nat) (s : String) : (text s).isPlain depth = true := by
  cases depth <;> rfl
@[simp] theorem isPlain_bool (depth : Nat) (b : Bool) : (bool b).isPlain depth = true := by
  cases depth <;> rfl

theorem isPlain_nat (depth : Nat) {n : Nat} (h : n < UInt64.size) :
    (nat n).isPlain depth = true := by
  have hint : (Literal.ofNat n).toInt? = some (n : Int) := by
    simp [Literal.toInt?, Literal.toNat?, Literal.ofNat, h]
  have hplain : ((Literal.ofNat n).toInt?.isSome || (Literal.ofNat n).isFinite) = true := by
    rw [hint]
    rfl
  cases depth <;> exact hplain

@[simp] theorem reread_array (items : List Value) :
    (array items).reread = .array (items.map reread) := by
  refine congrArg array ?_
  induction items with
  | nil => rfl
  | cons item items ih => exact congrArg (item.reread :: ·) ih

@[simp] theorem settled_array (items : List Value) :
    (array items).settled = .array (items.map settled) := by
  refine congrArg array ?_
  induction items with
  | nil => rfl
  | cons item items ih => exact congrArg (item.settled :: ·) ih

@[simp] theorem isWritten_array (items : List Value) :
    (array items).isWritten = items.all isWritten := by
  show areWritten items = _
  induction items with
  | nil => rfl
  | cons item items ih => rw [areWritten, ih, List.all_cons]

@[simp] theorem isPlain_array (depth : Nat) (items : List Value) :
    (array items).isPlain (depth + 1) = items.all (isPlain depth) := by
  show arePlain depth items = _
  induction items with
  | nil => rfl
  | cons item items ih => rw [arePlain, ih, List.all_cons]

variable (members : List (String × Value))

@[simp] theorem reread_record :
    (record members).reread = record (members.map fun m => (m.1, m.2.reread)) := by
  refine congrArg object ?_
  induction members with
  | nil => rfl
  | cons m members ih => exact congrArg ((some m.1, m.2.reread) :: ·) ih

@[simp] theorem isWritten_record : (record members).isWritten = members.all (·.2.isWritten) := by
  show haveWritten (members.map _) = _
  induction members with
  | nil => rfl
  | cons m members ih =>
    rw [List.map_cons, haveWritten, ih, List.all_cons]
    rfl

@[simp] theorem isPlain_record (depth : Nat) :
    (record members).isPlain (depth + 1) = members.all (·.2.isPlain depth) := by
  show havePlain depth (members.map _) = _
  induction members with
  | nil => rfl
  | cons m members ih =>
    rw [List.map_cons, havePlain, ih, List.all_cons]
    rfl

/-- Where no name is repeated, nothing has to be settled among the members. -/
theorem keepLast_of_nodup {ms : List (Option String × Value)} (h : (ms.map Prod.fst).Nodup) :
    keepLast ms = ms := by
  induction ms with
  | nil => rfl
  | cons m ms ih =>
    rw [List.map_cons, List.nodup_cons] at h
    have hnew : ms.any (·.1 = m.1) = false := by
      rw [List.any_eq_false]
      intro other hother hsame
      exact h.1 (List.mem_map.mpr ⟨other, hother, by simpa using hsame⟩)
    rw [keepLast, hnew, ih h.2]
    rfl

theorem settled_record (h : (members.map Prod.fst).Nodup) :
    (record members).settled = record (members.map fun m => (m.1, m.2.settled)) := by
  have hmembers : membersSettled (members.map fun m => (some m.1, m.2)) =
      members.map fun m => (some m.1, m.2.settled) := by
    clear h
    induction members with
    | nil => rfl
    | cons m members ih => exact congrArg ((some m.1, m.2.settled) :: ·) ih
  have hnodup : ((members.map fun m => (some m.1, m.2.settled)).map Prod.fst).Nodup := by
    rw [List.map_map]
    have hsome := List.Nodup.map (Option.some_injective String) h
    rwa [List.map_map] at hsome
  show object (keepLast (membersSettled (members.map fun m => (some m.1, m.2)))) = _
  rw [hmembers, keepLast_of_nodup hnodup, record, List.map_map]
  rfl

/-- **A printed document reads back** with repeated members settled. -/
theorem ofText?_render {v : Value} (hwritten : v.isWritten = true)
    (hplain : v.reread.isPlain maxDepth = true) : ofText? v.render = some v.reread.settled := by
  unfold ofText?
  rw [parse?_render hwritten, Option.bind_some, if_pos hplain]

end Value

/-! ## Finite numbers -/

/-- A printed number of moderate size reads as a finite one. -/
theorem Literal.isFinite_reread {n : Literal} (hn : n.integral = false)
    (h : n.decimal.size ≤ 41) : n.reread.isFinite = true := by
  have hdigits := Parser.gather_lt (n := 0) (by decide) (Printer.nat n.decimal.digits)
  unfold Literal.isFinite Literal.doubleCode Literal.reread
  rw [hn]
  refine decide_eq_true (quickDouble_lt_infinity hdigits ?_)
  unfold Decimal.size at h
  show n.decimal.exponent + ((Printer.nat n.decimal.digits).length - _ : Nat) ≤ 45
  unfold Printer.nat
  omega

theorem Literal.size_ofSingle_le {x : Single} (hx : x.isFinite = true) :
    (Literal.ofSingle x).decimal.size ≤ 41 := by
  have hcode : x.code < (254 + 1) * 2 ^ (singleFormat.precision - 1) := by
    have hlt : x.code < 0x7F800000 := of_decide_eq_true hx
    exact hlt
  obtain ⟨hratio, hpos⟩ := Format.ratioOfCode_le (k := 128) (by decide) hcode (by decide)
  obtain ⟨hdouble, hdouble_pos⟩ :=
    doubleFormat.ratio_codeOfRatio_le (by decide) (by decide) hpos hratio
  unfold Literal.ofSingle
  refine size_shortDecimal_le (Nat.lt_of_le_of_lt hdouble ?_)
  exact Nat.mul_lt_mul_of_pos_left (by norm_num) hdouble_pos

namespace Value

variable {x : Single}

theorem isFinite_reread_ofSingle (hx : x.isFinite = true) :
    (Literal.ofSingle x).reread.isFinite = true :=
  Literal.isFinite_reread rfl (Literal.size_ofSingle_le hx)

theorem reread_single (hx : x.isFinite = true) :
    (single x).reread = .number (Literal.ofSingle x).reread := by
  unfold single
  rw [if_pos hx]
  rfl

@[simp] theorem isWritten_single (x : Single) : (single x).isWritten = true := by
  unfold single
  split <;> rfl

theorem isPlain_single (hx : x.isFinite = true) (depth : Nat) :
    (single x).reread.isPlain depth = true := by
  have hplain : ((Literal.ofSingle x).reread.toInt?.isSome ||
      (Literal.ofSingle x).reread.isFinite) = true := by
    rw [isFinite_reread_ofSingle hx, Bool.or_true]
  rw [reread_single hx]
  cases depth <;> exact hplain

/-- A finite number is read as some number again. -/
theorem exists_asSingle?_single (hx : x.isFinite = true) :
    ∃ y, (single x).reread.settled.asSingle? = some y := by
  have hfinite := isFinite_reread_ofSingle hx
  rw [reread_single hx]
  show ∃ y, (Literal.ofSingle x).reread.toSingle? = some y
  unfold Literal.toSingle?
  split
  · exact ⟨_, rfl⟩
  · rw [if_pos hfinite]
    exact ⟨_, rfl⟩

end Value

end RankedSearch.Json
