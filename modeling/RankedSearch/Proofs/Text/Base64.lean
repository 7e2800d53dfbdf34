import RankedSearch.Text.Base64

/-! # Base64 texts and the bytes they stand for

Reading base64 gives bytes exactly for the text that writing these bytes produces, so that each
sequence of bytes has one written form in each alphabet. Symbols and six-bit values determine each
other, and so do groups of values and groups of bytes, the shorter ones at the end included: what
has unused bits set or one symbol left over is the writing of nothing. -/
namespace RankedSearch.Text.Base64

/-! ## Symbols -/

namespace Alphabet

/-- Symbols and their values determine each other. -/
def Faithful (a : Alphabet) : Prop := ∀ b v, a.value? b = some v ↔ v < 64 ∧ a.symbol v = b

/-- The same, as it can be checked symbol by symbol. -/
theorem faithful_of_forall {a : Alphabet} (hread : ∀ v < 64, a.value? (a.symbol v) = some v)
    (hwrite : ∀ n < 256, ∀ v ∈ a.value? (UInt8.ofNat n), v < 64 ∧ a.symbol v = UInt8.ofNat n) :
    a.Faithful := by
  intro b v
  constructor
  · intro h
    have hb := hwrite b.toNat b.toNat_lt v
    rw [UInt8.ofNat_toNat] at hb
    exact hb h
  · rintro ⟨hv, rfl⟩
    exact hread v hv

theorem faithful_standard : standard.Faithful :=
  faithful_of_forall (by decide) (by decide +kernel)

theorem faithful_urlSafe : urlSafe.Faithful :=
  faithful_of_forall (by decide) (by decide +kernel)

/-- A symbol of both alphabets has the same value in both. -/
theorem symbol_agree : ∀ v < 64, ∀ w < 64, urlSafe.symbol v = standard.symbol w → v = w := by
  decide +kernel

end Alphabet

variable {a : Alphabet}

theorem filterMap_symbols (ha : a.Faithful) {values : List Nat} (h : ∀ v ∈ values, v < 64) :
    (values.map a.symbol).filterMap a.value? = values := by
  induction values with
  | nil => rfl
  | cons v rest ih =>
    obtain ⟨hv, hrest⟩ := List.forall_mem_cons.mp h
    have hread : a.value? (a.symbol v) = some v := (ha _ v).mpr ⟨hv, rfl⟩
    rw [List.map_cons, List.filterMap_cons_some hread, ih hrest]

/-- A text of symbols is the writing of their values. -/
theorem symbols_filterMap (ha : a.Faithful) {symbols : Bytes}
    (h : ∀ b ∈ symbols, (a.value? b).isSome = true) :
    (symbols.filterMap a.value?).map a.symbol = symbols := by
  induction symbols with
  | nil => rfl
  | cons b rest ih =>
    obtain ⟨hb, hrest⟩ := List.forall_mem_cons.mp h
    obtain ⟨v, hv⟩ := Option.isSome_iff_exists.mp hb
    rw [List.filterMap_cons_some hv, List.map_cons, ih hrest, ((ha b v).mp hv).2]

theorem filterMap_lt (ha : a.Faithful) (symbols : Bytes) :
    ∀ v ∈ symbols.filterMap a.value?, v < 64 := by
  intro v hv
  obtain ⟨b, _, hb⟩ := List.mem_filterMap.mp hv
  exact ((ha b v).mp hb).1

/-! ## Groups -/

theorem sextets_lt (bytes : Bytes) : ∀ v ∈ sextets bytes, v < 64 := by
  fun_induction sextets bytes with
  | case1 => simp
  | case2 x =>
    have hx := x.toNat_lt
    simp
    omega
  | case3 x y =>
    have hx := x.toNat_lt
    have hy := y.toNat_lt
    simp
    omega
  | case4 x y z rest ih =>
    have hx := x.toNat_lt
    have hy := y.toNat_lt
    have hz := z.toNat_lt
    simp only [List.forall_mem_cons]
    exact ⟨by omega, by omega, by omega, by omega, ih⟩

/-- No writing leaves one symbol over. -/
theorem sextets_length (bytes : Bytes) : (sextets bytes).length % 4 ≠ 1 := by
  fun_induction sextets bytes with
  | case1 => decide
  | case2 x => simp
  | case3 x y => simp
  | case4 x y z rest ih =>
    simp only [List.length_cons]
    omega

theorem ofNat_eq_of_toNat {n : Nat} {b : UInt8} (h : n = b.toNat) : UInt8.ofNat n = b := by
  rw [h, UInt8.ofNat_toNat]

theorem unsextets_sextets (bytes : Bytes) : unsextets (sextets bytes) = some bytes := by
  fun_induction sextets bytes with
  | case1 => rfl
  | case2 x =>
    have hx := x.toNat_lt
    rw [unsextets, if_pos (by omega), ofNat_eq_of_toNat (b := x) (by omega)]
  | case3 x y =>
    have hx := x.toNat_lt
    have hy := y.toNat_lt
    rw [unsextets, if_pos (by omega), ofNat_eq_of_toNat (b := x) (by omega),
      ofNat_eq_of_toNat (b := y) (by omega)]
  | case4 x y z rest ih =>
    have hx := x.toNat_lt
    have hy := y.toNat_lt
    have hz := z.toNat_lt
    rw [unsextets, ih, Option.map_some, ofNat_eq_of_toNat (b := x) (by omega),
      ofNat_eq_of_toNat (b := y) (by omega), ofNat_eq_of_toNat (b := z) (by omega)]

/-- Values that stand for bytes are those that these bytes are written with. -/
theorem sextets_of_unsextets {values : List Nat} {bytes : Bytes} (hlt : ∀ v ∈ values, v < 64)
    (h : unsextets values = some bytes) : sextets bytes = values := by
  fun_induction unsextets values generalizing bytes with
  | case1 => cases h; rfl
  | case2 => cases h
  | case3 a b hb =>
    cases h
    simp only [List.forall_mem_cons] at hlt
    simp only [sextets, UInt8.toNat_ofNat', List.cons.injEq, and_true]
    omega
  | case4 => cases h
  | case5 a b c hc =>
    cases h
    simp only [List.forall_mem_cons] at hlt
    simp only [sextets, UInt8.toNat_ofNat', List.cons.injEq, and_true]
    omega
  | case6 => cases h
  | case7 a b c d rest ih =>
    obtain ⟨more, hmore, rfl⟩ := Option.map_eq_some_iff.mp h
    simp only [List.forall_mem_cons] at hlt
    obtain ⟨ha, hb, hc, hd, hrest⟩ := hlt
    simp only [sextets, UInt8.toNat_ofNat', List.cons.injEq]
    exact ⟨by omega, by omega, by omega, by omega, ih hrest hmore⟩

/-! ## Texts -/

theorem firstForeign_eq_none_iff (offset : Nat) (symbols : Bytes) :
    firstForeign a offset symbols = none ↔ ∀ b ∈ symbols, (a.value? b).isSome = true := by
  induction symbols generalizing offset with
  | nil => simp [firstForeign]
  | cons b rest ih =>
    rw [firstForeign, List.forall_mem_cons]
    cases hb : a.value? b with
    | none => simp
    | some v => simpa using ih (offset + 1)

/-- No byte is blamed just if all of them are symbols. -/
theorem foreign?_eq_none_iff (symbols : Bytes) :
    foreign? a symbols = none ↔ ∀ b ∈ symbols, (a.value? b).isSome = true := by
  unfold foreign?
  split
  · rename_i last hlast
    split
    · rename_i hblame
      have hnot : ¬ (a.value? last).isSome = true := by simpa using hblame.2
      exact iff_of_false (by simp) fun h => hnot (h last (List.mem_of_getLast? hlast))
    · exact firstForeign_eq_none_iff 0 symbols
  · rename_i hnone
    rw [List.getLast?_eq_none_iff] at hnone
    simp [hnone]

/-- **A text reads as bytes just if it is their writing.** -/
theorem decode_eq_ok_iff (ha : a.Faithful) {symbols bytes : Bytes} :
    decode a symbols = .ok bytes ↔ symbols = encode a bytes := by
  constructor
  · intro h
    unfold decode at h
    split at h
    · cases h
    · rename_i hforeign
      split at h
      · cases h
      · split at h
        · rename_i read hread
          cases h
          have hvalues := sextets_of_unsextets (filterMap_lt ha symbols) hread
          rw [encode, hvalues, symbols_filterMap ha ((foreign?_eq_none_iff symbols).mp hforeign)]
        · cases h
  · rintro rfl
    have hvalues := filterMap_symbols ha (sextets_lt bytes)
    have hforeign : foreign? a (encode a bytes) = none := by
      rw [foreign?_eq_none_iff]
      intro b hb
      obtain ⟨v, hv, rfl⟩ := List.mem_map.mp hb
      rw [(ha _ v).mpr ⟨sextets_lt bytes v hv, rfl⟩]
      rfl
    have hlength : ¬ (encode a bytes).length % 4 = 1 := by
      rw [encode, List.length_map]
      exact sextets_length bytes
    unfold decode
    rw [hforeign]
    dsimp only
    rw [if_neg hlength, encode, hvalues, unsextets_sextets]

/-! ## Two alphabets -/

theorem values_agree {vs ws : List Nat} (hv : ∀ v ∈ vs, v < 64) (hw : ∀ w ∈ ws, w < 64)
    (h : vs.map urlSafe.symbol = ws.map standard.symbol) : vs = ws := by
  induction vs generalizing ws with
  | nil => exact (List.map_eq_nil_iff.mp h.symm).symm
  | cons v rest ih =>
    cases ws with
    | nil => cases h
    | cons w more =>
      obtain ⟨hv, hrest⟩ := List.forall_mem_cons.mp hv
      obtain ⟨hw, hmore⟩ := List.forall_mem_cons.mp hw
      obtain ⟨hsymbol, hsymbols⟩ := List.cons.inj h
      rw [Alphabet.symbol_agree v hv w hw hsymbol, ih hrest hmore hsymbols]

/-- A text that is written in both alphabets stands for the same bytes in both. -/
theorem encode_agree {first second : Bytes} (h : encode urlSafe first = encode standard second) :
    first = second := by
  have hvalues := values_agree (sextets_lt first) (sextets_lt second) h
  have hread := unsextets_sextets second
  rw [← hvalues, unsextets_sextets] at hread
  exact Option.some.inj hread

end RankedSearch.Text.Base64
