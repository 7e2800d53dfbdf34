import Mathlib.Data.Nat.Log
import Mathlib.Algebra.Order.Ring.Nat
import Mathlib.Tactic.Ring
import Mathlib.Tactic.GCongr
import Mathlib.Tactic.NormNum
import RankedSearch.Number.Single

/-! # How large rounded numbers can be

Bounds of magnitudes by powers of two. They are coarse: a rounded number is told from the exact one
by a few binary places at most, which is all it takes to see that a number of moderate size is never
read as infinity and never rounded to it. -/
namespace RankedSearch.Number

/-! ## Rounding -/

theorem roundDiv_le (num den : Nat) : roundDiv num den ≤ num / den + 1 := by
  unfold roundDiv
  dsimp only
  split
  · omega
  · split
    · omega
    · have := Nat.mod_lt (num / den) Nat.zero_lt_two
      omega

theorem roundDiv_le_of_lt {num den bound : Nat} (h : num < den * bound) :
    roundDiv num den ≤ bound := by
  have hdiv : num / den < bound := Nat.div_lt_of_lt_mul h
  have := roundDiv_le num den
  omega

theorem log2_le_add {num den k : Nat} (h : num ≤ den * 2 ^ k) :
    num.log2 ≤ den.log2 + k := by
  by_cases hn : num = 0
  · subst hn
    simp
  · have hlow : 2 ^ num.log2 ≤ num := Nat.log2_self_le hn
    have hhigh : den < 2 ^ (den.log2 + 1) := Nat.lt_log2_self
    have hlt : 2 ^ num.log2 < 2 ^ (den.log2 + 1 + k) := by
      calc 2 ^ num.log2 ≤ den * 2 ^ k := hlow.trans h
        _ < 2 ^ (den.log2 + 1) * 2 ^ k := by gcongr
        _ = 2 ^ (den.log2 + 1 + k) := (pow_add ..).symm
    have := (Nat.pow_lt_pow_iff_right (by decide)).mp hlt
    omega

/-! ## Codes of quotients -/

namespace Format

variable {f : Format} {num den k : Nat}

/-- The exponent of the last place is not far from the difference of the sizes. -/
theorem unitExponent_bounds (hf : f.leastExponent + f.precision ≤ 1)
    (h : num.log2 ≤ den.log2 + k) :
    (num.log2 : Int) - den.log2 - f.precision ≤ f.unitExponent num den ∧
      f.unitExponent num den ≤ (k : Int) + 1 - f.precision := by
  have hguess :
      f.unitExponent num den =
          max f.leastExponent ((num.log2 : Int) - den.log2 - f.precision) ∨
        f.unitExponent num den =
          max f.leastExponent ((num.log2 : Int) - den.log2 - f.precision + 1) := by
    unfold unitExponent
    dsimp only
    split
    · exact Or.inl rfl
    · exact Or.inr rfl
  omega

end Format

theorem scaled_lt {num den p : Nat} {exponent : Int} (hd : 0 < den)
    (h : (num.log2 : Int) - den.log2 - p ≤ exponent) :
    (scaled num den exponent).1 < (scaled num den exponent).2 * 2 ^ (p + 1) := by
  have hnum : num < 2 ^ (num.log2 + 1) := Nat.lt_log2_self
  have hden : 2 ^ den.log2 ≤ den := Nat.log2_self_le (Nat.ne_of_gt hd)
  unfold scaled
  cases exponent with
  | ofNat e =>
    show num < den <<< e * 2 ^ (p + 1)
    rw [Nat.shiftLeft_eq]
    have hsize : num.log2 + 1 ≤ den.log2 + e + (p + 1) := by
      have : (num.log2 : Int) - den.log2 - p ≤ (e : Int) := h
      omega
    calc num < 2 ^ (num.log2 + 1) := hnum
      _ ≤ 2 ^ (den.log2 + e + (p + 1)) := Nat.pow_le_pow_right (by decide) hsize
      _ = 2 ^ den.log2 * 2 ^ e * 2 ^ (p + 1) := by rw [pow_add, pow_add]
      _ ≤ den * 2 ^ e * 2 ^ (p + 1) := by gcongr
  | negSucc e =>
    show num <<< (e + 1) < den * 2 ^ (p + 1)
    rw [Nat.shiftLeft_eq]
    have hsize : num.log2 + 1 + (e + 1) ≤ den.log2 + (p + 1) := by
      rw [Int.negSucc_eq] at h
      omega
    calc num * 2 ^ (e + 1) < 2 ^ (num.log2 + 1) * 2 ^ (e + 1) := by gcongr
      _ = 2 ^ (num.log2 + 1 + (e + 1)) := (pow_add ..).symm
      _ ≤ 2 ^ (den.log2 + (p + 1)) := Nat.pow_le_pow_right (by decide) hsize
      _ = 2 ^ den.log2 * 2 ^ (p + 1) := pow_add ..
      _ ≤ den * 2 ^ (p + 1) := by gcongr

/-- The upper part of the code of a quotient is not far above its size. -/
theorem Format.codeOfRatio_le {f : Format} {num den k : Nat} (hp : 0 < f.precision)
    (hf : f.leastExponent + f.precision ≤ 1) (hd : 0 < den) (h : num ≤ den * 2 ^ k) :
    f.codeOfRatio num den ≤
      ((k + 1 - f.precision - f.leastExponent).toNat + 4) * 2 ^ (f.precision - 1) := by
  unfold codeOfRatio
  split
  · exact Nat.zero_le _
  · obtain ⟨hlow, hhigh⟩ := unitExponent_bounds hf (log2_le_add h)
    have hround := roundDiv_le_of_lt (scaled_lt hd hlow)
    have hshift : (f.unitExponent num den - f.leastExponent).toNat ≤
        (k + 1 - f.precision - f.leastExponent).toNat := by omega
    have hfour : 2 ^ (f.precision + 1) = 4 * 2 ^ (f.precision - 1) := by
      have hsplit : f.precision + 1 = 2 + (f.precision - 1) := by omega
      rw [hsplit, pow_add]
      rfl
    refine (Nat.min_le_right ..).trans ?_
    rw [hfour] at hround
    rw [Nat.shiftLeft_eq]
    refine (Nat.add_le_add (Nat.mul_le_mul_right _ hshift) hround).trans (Nat.le_of_eq ?_)
    ring

/-- A number of moderate size is not rounded to infinity. -/
theorem codeOfRatio_lt_infinity {num den k : Nat} (hd : 0 < den) (hk : k ≤ 1000)
    (h : num ≤ den * 2 ^ k) : doubleFormat.codeOfRatio num den < doubleFormat.infinity := by
  refine Nat.lt_of_le_of_lt (Format.codeOfRatio_le (by decide) (by decide) hd h) ?_
  show (((k : Int) + 1 - 53 - -1074).toNat + 4) * 2 ^ 52 < 0x7FF0000000000000
  omega

/-- What is not below one is not rounded far below it. -/
theorem le_codeOfRatio {num den : Nat} (hd : 0 < den) (h : den ≤ num) :
    1021 * 2 ^ 52 ≤ doubleFormat.codeOfRatio num den := by
  have hlog : den.log2 ≤ num.log2 + 0 := log2_le_add (by simpa using h)
  obtain ⟨hlow, _⟩ := @Format.unitExponent_bounds doubleFormat num den (num.log2 + 52)
    (by decide) (by omega)
  have hshift : 1021 ≤
      (doubleFormat.unitExponent num den - doubleFormat.leastExponent).toNat := by
    simp only [doubleFormat] at hlow ⊢
    omega
  unfold Format.codeOfRatio
  rw [if_neg (by omega)]
  refine Nat.le_min.mpr ⟨by decide, ?_⟩
  show _ ≤ _ <<< 52 + roundDiv _ _
  rw [Nat.shiftLeft_eq]
  exact (Nat.mul_le_mul_right _ hshift).trans (Nat.le_add_right ..)

/-! ## Codes as quotients -/

namespace Format

variable {f : Format} {code c k : Nat}

theorem parts_fst_lt (hp : 0 < f.precision) (code : Nat) :
    (f.parts code).1 < 2 ^ f.precision := by
  have hpow : 2 ^ f.precision = 2 * 2 ^ (f.precision - 1) := by
    rw [← Nat.pow_succ', Nat.succ_eq_add_one, Nat.sub_add_cancel hp]
  have hmod := Nat.mod_lt code (show 0 < 2 ^ (f.precision - 1) by positivity)
  unfold parts
  simp only [Nat.one_shiftLeft]
  split
  · show _ % _ < _
    omega
  · show _ % _ + _ < _
    omega

theorem parts_snd_le (h : code < (c + 1) * 2 ^ (f.precision - 1)) :
    (f.parts code).2 ≤ f.leastExponent + (c - 1 : Nat) := by
  have hfield : code / 2 ^ (f.precision - 1) ≤ c :=
    Nat.lt_succ_iff.mp (Nat.div_lt_of_lt_mul (by rwa [Nat.mul_comm] at h))
  unfold parts
  simp only [Nat.one_shiftLeft]
  split
  · show f.leastExponent ≤ _
    omega
  · show f.leastExponent + _ ≤ _
    omega

/-- A code is at most as large as its upper part says. -/
theorem ratioOfCode_le (hp : 0 < f.precision) (h : code < (c + 1) * 2 ^ (f.precision - 1))
    (hk : f.precision + f.leastExponent + (c - 1 : Nat) ≤ k) :
    (f.ratioOfCode code).1 ≤ (f.ratioOfCode code).2 * 2 ^ k ∧ 0 < (f.ratioOfCode code).2 := by
  have hs := parts_fst_lt hp code
  have he := parts_snd_le h
  unfold ratioOfCode
  generalize f.parts code = parts at hs he ⊢
  obtain ⟨s, e⟩ := parts
  dsimp only at hs he ⊢
  cases e with
  | ofNat e =>
    refine ⟨?_, Nat.one_pos⟩
    have hsize : f.precision + e ≤ k := by
      have : (e : Int) ≤ f.leastExponent + (c - 1 : Nat) := he
      omega
    show s <<< e ≤ 1 * 2 ^ k
    rw [Nat.shiftLeft_eq, Nat.one_mul]
    calc s * 2 ^ e ≤ 2 ^ f.precision * 2 ^ e := by gcongr
      _ = 2 ^ (f.precision + e) := (pow_add ..).symm
      _ ≤ 2 ^ k := Nat.pow_le_pow_right (by decide) hsize
  | negSucc e =>
    rw [Int.negSucc_eq] at he
    have hsize : f.precision ≤ e + 1 + k := by omega
    show s ≤ 1 <<< (e + 1) * 2 ^ k ∧ 0 < 1 <<< (e + 1)
    rw [Nat.one_shiftLeft]
    refine ⟨?_, by positivity⟩
    calc s ≤ 2 ^ f.precision := hs.le
      _ ≤ 2 ^ (e + 1 + k) := Nat.pow_le_pow_right (by decide) hsize
      _ = 2 ^ (e + 1) * 2 ^ k := pow_add ..

end Format

/-- What was rounded is not much larger than before. -/
theorem Format.ratio_codeOfRatio_le {f : Format} {num den k : Nat} (hp : 0 < f.precision)
    (hf : f.leastExponent + f.precision ≤ 1) (hd : 0 < den) (h : num ≤ den * 2 ^ k) :
    (f.ratioOfCode (f.codeOfRatio num den)).1 ≤
        (f.ratioOfCode (f.codeOfRatio num den)).2 * 2 ^ (k + 4) ∧
      0 < (f.ratioOfCode (f.codeOfRatio num den)).2 := by
  have hcode := codeOfRatio_le hp hf hd h
  generalize hupper : (k + 1 - f.precision - f.leastExponent).toNat + 4 = upper at hcode
  have hnext : f.codeOfRatio num den < (upper + 1) * 2 ^ (f.precision - 1) := by
    refine Nat.lt_of_le_of_lt hcode (Nat.mul_lt_mul_of_pos_right (Nat.lt_succ_self _) ?_)
    positivity
  exact ratioOfCode_le hp hnext (by omega)

theorem ratio_codeOfRatio_ge {num den : Nat} (hd : 0 < den) (h : den ≤ num) :
    (doubleFormat.ratioOfCode (doubleFormat.codeOfRatio num den)).2 ≤
      (doubleFormat.ratioOfCode (doubleFormat.codeOfRatio num den)).1 * 4 := by
  have hcode := le_codeOfRatio hd h
  generalize doubleFormat.codeOfRatio num den = code at hcode
  have hparts : 2 ^ 52 ≤ (doubleFormat.parts code).1 ∧ -54 ≤ (doubleFormat.parts code).2 := by
    unfold Format.parts
    have hfield : 1021 ≤ code / 2 ^ 52 := (Nat.le_div_iff_mul_le (by positivity)).mpr hcode
    have hne : code / 1 <<< (doubleFormat.precision - 1) ≠ 0 := by
      show code / 2 ^ 52 ≠ 0
      omega
    dsimp only
    rw [if_neg hne]
    refine ⟨Nat.le_add_left .., ?_⟩
    show (-54 : Int) ≤ -1074 + (code / 2 ^ 52 - 1 : Nat)
    omega
  unfold Format.ratioOfCode
  generalize doubleFormat.parts code = parts at hparts ⊢
  obtain ⟨s, e⟩ := parts
  dsimp only at hparts ⊢
  obtain ⟨hs, he⟩ := hparts
  cases e with
  | ofNat e =>
    show 1 ≤ s <<< e * 4
    rw [Nat.shiftLeft_eq]
    have : 0 < s * 2 ^ e := by positivity
    omega
  | negSucc e =>
    rw [Int.negSucc_eq] at he
    show 1 <<< (e + 1) ≤ s * 4
    rw [Nat.one_shiftLeft]
    have hpow : 2 ^ (e + 1) ≤ 2 ^ 54 := Nat.pow_le_pow_right (by decide) (by omega)
    omega

/-! ## Reading decimal numbers the quick way -/

theorem mul_lt_infinity {x y i j : Nat} (hij : i + j ≤ 1000)
    (hx : (doubleFormat.ratioOfCode x).1 ≤ (doubleFormat.ratioOfCode x).2 * 2 ^ i ∧
      0 < (doubleFormat.ratioOfCode x).2)
    (hy : (doubleFormat.ratioOfCode y).1 ≤ (doubleFormat.ratioOfCode y).2 * 2 ^ j ∧
      0 < (doubleFormat.ratioOfCode y).2) :
    doubleFormat.mul x y < doubleFormat.infinity := by
  refine codeOfRatio_lt_infinity (Nat.mul_pos hx.2 hy.2) hij ?_
  calc _ ≤ (doubleFormat.ratioOfCode x).2 * 2 ^ i * ((doubleFormat.ratioOfCode y).2 * 2 ^ j) :=
        Nat.mul_le_mul hx.1 hy.1
    _ = (doubleFormat.ratioOfCode x).2 * (doubleFormat.ratioOfCode y).2 * 2 ^ (i + j) := by ring

/-- A quotient by a power of ten is at most a little larger than the dividend. -/
theorem div_powerOfTen {x k : Nat} (n : Nat) (hk : k + 2 ≤ 1000)
    (hx : (doubleFormat.ratioOfCode x).1 ≤ (doubleFormat.ratioOfCode x).2 * 2 ^ k ∧
      0 < (doubleFormat.ratioOfCode x).2) :
    doubleFormat.div x (doubleFormat.powerOfTen n) < doubleFormat.infinity ∧
      (doubleFormat.ratioOfCode (doubleFormat.div x (doubleFormat.powerOfTen n))).1 ≤
        (doubleFormat.ratioOfCode (doubleFormat.div x (doubleFormat.powerOfTen n))).2 *
          2 ^ (k + 2 + 4) ∧
      0 < (doubleFormat.ratioOfCode (doubleFormat.div x (doubleFormat.powerOfTen n))).2 := by
  have hpower := @ratio_codeOfRatio_ge (Nat.pow 10 n) 1 Nat.one_pos
    (Nat.one_le_pow _ _ (by decide))
  have hpos : 0 < (doubleFormat.ratioOfCode (doubleFormat.powerOfTen n)).1 := by
    have hsize : Nat.pow 10 n ≤ 1 * 2 ^ (4 * n) := by
      rw [Nat.one_mul, pow_mul]
      exact Nat.pow_le_pow_left (by decide) n
    have hden := (@Format.ratio_codeOfRatio_le doubleFormat (Nat.pow 10 n) 1 (4 * n) (by decide)
      (by decide) Nat.one_pos hsize).2
    unfold Format.powerOfTen
    omega
  have hden : 0 < (doubleFormat.ratioOfCode x).2 *
      (doubleFormat.ratioOfCode (doubleFormat.powerOfTen n)).1 := Nat.mul_pos hx.2 hpos
  have hbound : (doubleFormat.ratioOfCode x).1 *
      (doubleFormat.ratioOfCode (doubleFormat.powerOfTen n)).2 ≤
      (doubleFormat.ratioOfCode x).2 *
        (doubleFormat.ratioOfCode (doubleFormat.powerOfTen n)).1 * 2 ^ (k + 2) := by
    calc _ ≤ (doubleFormat.ratioOfCode x).2 * 2 ^ k *
          ((doubleFormat.ratioOfCode (doubleFormat.powerOfTen n)).1 * 4) :=
          Nat.mul_le_mul hx.1 hpower
      _ = _ := by ring
  exact ⟨codeOfRatio_lt_infinity hden hk hbound,
    Format.ratio_codeOfRatio_le (by decide) (by decide) hden hbound⟩

/-- A decimal number of moderate size is read as a finite one. -/
theorem quickDouble_lt_infinity {d : Decimal} (hd : d.digits < 2 ^ 64) (he : d.exponent ≤ 45) :
    quickDouble d < doubleFormat.infinity := by
  have hdigits := @Format.ratio_codeOfRatio_le doubleFormat d.digits 1 64 (by decide) (by decide)
    Nat.one_pos (by omega)
  unfold quickDouble
  dsimp only
  split
  · rename_i e hexp
    have hsmall : e ≤ 45 := by
      rw [hexp] at he
      exact Int.ofNat_le.mp he
    split
    · decide
    · rw [if_neg (by unfold largestPower; omega)]
      have hpower := @Format.ratio_codeOfRatio_le doubleFormat (Nat.pow 10 e) 1 180 (by decide)
        (by decide) Nat.one_pos ?_
      · exact mul_lt_infinity (by decide) hdigits hpower
      · calc Nat.pow 10 e ≤ 10 ^ 45 := Nat.pow_le_pow_right (by decide) hsmall
          _ ≤ 1 * 2 ^ 180 := by norm_num
  · rename_i e hexp
    split
    · exact (div_powerOfTen (e + 1) (by decide) hdigits).1
    · split
      · have hfirst := div_powerOfTen largestPower (by decide) hdigits
        exact (div_powerOfTen _ (by decide) hfirst.2).1
      · decide

/-! ## The shortest decimal -/

/-- How many places the whole part of a decimal number has at most. -/
def Decimal.size (d : Decimal) : Int := (Nat.toDigits 10 d.digits).length + d.exponent

theorem length_toDigits_le {n k : Nat} (h : n ≤ 10 ^ k) : (Nat.toDigits 10 n).length ≤ k + 1 := by
  rw [Nat.length_toDigits_le_iff (by decide) (Nat.succ_pos k)]
  exact Nat.lt_of_le_of_lt h (Nat.pow_lt_pow_right (by decide) (Nat.lt_succ_self k))

theorem digitCount_le {n k : Nat} (hk : 0 < k) (h : n < 10 ^ k) : digitCount n ≤ k := by
  unfold digitCount
  split
  · exact Nat.zero_le k
  · exact (Nat.length_toDigits_le_iff (by decide) hk).mpr h

theorem size_roundedDigits_le {f : Format} {code : Nat} (count : Nat)
    (h : (f.ratioOfCode code).1 < (f.ratioOfCode code).2 * 10 ^ 40) :
    (f.roundedDigits code count).size ≤ 41 := by
  unfold Format.roundedDigits
  generalize f.ratioOfCode code = ratio at h ⊢
  obtain ⟨num, den⟩ := ratio
  dsimp only at h ⊢
  have hwhole := digitCount_le (by decide) (Nat.div_lt_of_lt_mul h)
  generalize hplace : (if 0 < num / den then (digitCount (num / den) : Int)
    else 1 - (digitCount (den / (num + 1)) : Int)) = place
  have hplace_le : place ≤ 40 := by
    rw [← hplace]
    split <;> omega
  split
  · rename_i e hexp
    have he : e ≤ 40 := by
      have : (e : Int) = place - count := hexp.symm
      omega
    have hround : roundDiv num (den * Nat.pow 10 e) ≤ 10 ^ (40 - e) := by
      refine roundDiv_le_of_lt ?_
      calc num < den * 10 ^ 40 := h
        _ = den * 10 ^ (e + (40 - e)) := by rw [Nat.add_sub_cancel' he]
        _ = den * Nat.pow 10 e * 10 ^ (40 - e) := by rw [pow_add, ← Nat.mul_assoc]; rfl
    have hlength := length_toDigits_le hround
    unfold Decimal.size
    dsimp only
    rw [hexp]
    show (_ : Int) + (e : Int) ≤ 41
    omega
  · rename_i e hexp
    have hround : roundDiv (num * Nat.pow 10 (e + 1)) den ≤ 10 ^ (40 + (e + 1)) := by
      refine roundDiv_le_of_lt ?_
      calc num * 10 ^ (e + 1) < den * 10 ^ 40 * 10 ^ (e + 1) :=
            Nat.mul_lt_mul_of_pos_right h (by positivity)
        _ = den * 10 ^ (40 + (e + 1)) := by ring
    have hlength := length_toDigits_le hround
    unfold Decimal.size
    dsimp only
    rw [hexp, Int.negSucc_eq]
    omega

theorem size_shortDecimal_le {f : Format} {code : Nat}
    (h : (f.ratioOfCode code).1 < (f.ratioOfCode code).2 * 10 ^ 40) :
    (f.shortDecimal code).size ≤ 41 := by
  unfold Format.shortDecimal
  dsimp only
  generalize hfound : List.findSome? _ _ = found
  cases found with
  | none => decide
  | some d =>
    obtain ⟨n, _, hn⟩ := List.exists_of_findSome?_eq_some hfound
    split at hn
    · cases hn
      exact size_roundedDigits_le (n + 1) h
    · cases hn

/-! ## Counts in single precision -/

namespace Single

theorem code_ofCode {negative : Bool} {code : Nat} (h : code < signBit) :
    (ofCode negative code).code = code := by
  unfold signBit at h
  unfold Single.code ofCode signBit
  rw [UInt32.toNat_ofNat']
  cases negative with
  | true =>
    show (0x80000000 + code) % 2 ^ 32 % 0x80000000 = code
    omega
  | false =>
    show code % 2 ^ 32 % 0x80000000 = code
    omega

/-- A quotient of moderate size is rounded to a finite number that is not much larger. -/
theorem ofRatio_bound {num : Int} {den k : Nat} (hd : 0 < den) (hk : k ≤ 120)
    (h : num.natAbs ≤ den * 2 ^ k) :
    (ofRatio num den).isFinite = true ∧
      (ofRatio num den).toRatio.1.natAbs ≤ (ofRatio num den).toRatio.2 * 2 ^ (k + 4) ∧
      0 < (ofRatio num den).toRatio.2 := by
  have hcode : singleFormat.codeOfRatio num.natAbs den < singleFormat.infinity := by
    refine Nat.lt_of_le_of_lt (Format.codeOfRatio_le (by decide) (by decide) hd h) ?_
    show (((k : Int) + 1 - 24 - -149).toNat + 4) * 2 ^ 23 < 0x7F800000
    omega
  have hsame : (ofRatio num den).code = singleFormat.codeOfRatio num.natAbs den :=
    code_ofCode (Nat.lt_trans hcode (by decide))
  obtain ⟨hratio, hpos⟩ := singleFormat.ratio_codeOfRatio_le (by decide) (by decide) hd h
  refine ⟨?_, ?_, ?_⟩
  · unfold isFinite
    rw [hsame]
    exact decide_eq_true hcode
  · unfold toRatio
    rw [hsame]
    dsimp only
    split
    · rw [Int.natAbs_neg]
      exact hratio
    · exact hratio
  · unfold toRatio
    rw [hsame]
    exact hpos

/-- A share of a count of 64 bits is finite. -/
theorem isFinite_divNat {n m : Nat} (hn : n < 2 ^ 64) (hm : 0 < m) :
    ((ofNat n).divNat m).isFinite = true := by
  obtain ⟨_, hratio, hpos⟩ := @ofRatio_bound n 1 64 Nat.one_pos (by decide) (by omega)
  have hden : 0 < (ofNat n).toRatio.2 * m := Nat.mul_pos hpos hm
  refine (@ofRatio_bound (ofNat n).toRatio.1 _ 68 hden (by decide) ?_).1
  calc (ofNat n).toRatio.1.natAbs ≤ (ofNat n).toRatio.2 * 2 ^ 68 := hratio
    _ ≤ (ofNat n).toRatio.2 * m * 2 ^ 68 := by
      gcongr
      exact Nat.le_mul_of_pos_right _ hm

end Single

end RankedSearch.Number
