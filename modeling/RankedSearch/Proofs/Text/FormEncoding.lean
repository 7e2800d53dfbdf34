import RankedSearch.Text.FormEncoding

/-! # Form encoding reads back

Names and values are written byte by byte, with neither an ampersand nor an equals sign, so that the
text falls into the same pairs again whatever they are made of. A plus sign is written as an escape
and means a space otherwise; that reading turns plus signs into spaces before it looks for escapes
does no harm, as no escape holds a plus sign. -/
namespace RankedSearch.Text.FormEncoding

open Percent (escape hexDigit percentSign unescape)

/-! ## One byte -/

/-- What a byte is before escapes are looked for. -/
def unplus (b : UInt8) : UInt8 := if b = plusSign then space else b

theorem isKept_plain : ∀ n < 256, isKept (UInt8.ofNat n) = true →
    unplus (UInt8.ofNat n) = UInt8.ofNat n ∧ UInt8.ofNat n ≠ percentSign := by
  decide +kernel

theorem unplus_hexDigit : ∀ n < 16, unplus (hexDigit n) = hexDigit n := by decide

theorem encodeByte_plain : ∀ n < 256, ∀ c ∈ encodeByte (UInt8.ofNat n),
    c.toNat < 128 ∧ c ≠ ampersand ∧ c ≠ equalsSign := by
  -- Deciding the statement itself would go through all the bytes there are, for each of them.
  have hall : ∀ n < 256, (encodeByte (UInt8.ofNat n)).all
      (fun c => decide (c.toNat < 128 ∧ c ≠ ampersand ∧ c ≠ equalsSign)) = true := by
    decide +kernel
  intro n hn c hc
  exact of_decide_eq_true (List.all_eq_true.mp (hall n hn) c hc)

/-- A byte reads back, whatever follows it. -/
theorem unescape_encodeByte (b : UInt8) (rest : Bytes) :
    unescape ((encodeByte b ++ rest).map unplus) = b :: unescape (rest.map unplus) := by
  have hb : b.toNat < 256 := b.toNat_lt
  unfold encodeByte
  by_cases hkept : isKept b = true
  · rw [if_pos hkept]
    have hplain := isKept_plain b.toNat hb
    rw [UInt8.ofNat_toNat] at hplain
    obtain ⟨hplus, hpercent⟩ := hplain hkept
    show unescape (unplus b :: rest.map unplus) = _
    rw [hplus, Percent.unescape_cons hpercent]
  · rw [if_neg hkept]
    by_cases hspace : b = space
    · rw [if_pos hspace, hspace]
      show unescape (unplus plusSign :: rest.map unplus) = _
      rw [show unplus plusSign = space from rfl, Percent.unescape_cons (by decide)]
    · rw [if_neg hspace]
      have hescape : (escape b).map unplus = escape b := by
        have hhigh : b.toNat / 16 < 16 := by omega
        have hlow : b.toNat % 16 < 16 := by omega
        simp only [escape, List.map_cons, List.map_nil, unplus_hexDigit _ hhigh,
          unplus_hexDigit _ hlow]
        rfl
      rw [List.map_append, hescape, Percent.unescape_escape]

/-! ## Names and values -/

theorem encodeComponent_plain (s : String) : ∀ c ∈ encodeComponent s,
    c.toNat < 128 ∧ c ≠ ampersand ∧ c ≠ equalsSign := by
  intro c hc
  obtain ⟨b, _, hb⟩ := List.mem_flatMap.mp hc
  have hplain := encodeByte_plain b.toNat b.toNat_lt c
  rw [UInt8.ofNat_toNat] at hplain
  exact hplain hb

theorem unescape_encodeComponent (bytes : Bytes) :
    unescape ((bytes.flatMap encodeByte).map unplus) = bytes := by
  induction bytes with
  | nil => rfl
  | cons b rest ih => rw [List.flatMap_cons, unescape_encodeByte, ih]

theorem decodeComponent_encodeComponent (s : String) :
    decodeComponent (encodeComponent s) = s := by
  show ofUtf8Lossy (unescape ((encodeComponent s).map unplus)) = s
  rw [encodeComponent, unescape_encodeComponent, ofUtf8Lossy_utf8]

/-! ## Pairs -/

theorem encodePair_plain (pair : String × String) :
    ∀ c ∈ encodePair pair, c.toNat < 128 ∧ c ≠ ampersand := by
  intro c hc
  simp only [encodePair, List.append_assoc, List.singleton_append, List.mem_append,
    List.mem_cons] at hc
  rcases hc with hc | rfl | hc
  · obtain ⟨hascii, hne, _⟩ := encodeComponent_plain pair.1 c hc
    exact ⟨hascii, hne⟩
  · decide
  · obtain ⟨hascii, hne, _⟩ := encodeComponent_plain pair.2 c hc
    exact ⟨hascii, hne⟩

theorem decodePair_encodePair (pair : String × String) : decodePair (encodePair pair) = pair := by
  have hname : equalsSign ∉ encodeComponent pair.1 := by
    intro hm
    exact (encodeComponent_plain pair.1 equalsSign hm).2.2 rfl
  unfold decodePair
  rw [encodePair, List.append_assoc, List.singleton_append, splitFirst_append hname]
  dsimp only
  rw [decodeComponent_encodeComponent, decodeComponent_encodeComponent]

theorem mem_intercalate {separator c : UInt8} {parts : List Bytes}
    (h : c ∈ List.intercalate [separator] parts) : c = separator ∨ ∃ part ∈ parts, c ∈ part := by
  induction parts with
  | nil => cases h
  | cons part rest ih =>
    cases rest with
    | nil =>
      rw [List.intercalate_singleton] at h
      exact Or.inr ⟨part, List.mem_cons_self .., h⟩
    | cons next more =>
      rw [List.intercalate_cons_cons, List.append_assoc, List.singleton_append, List.mem_append,
        List.mem_cons] at h
      rcases h with h | h | h
      · exact Or.inr ⟨part, List.mem_cons_self .., h⟩
      · exact Or.inl h
      · rcases ih h with hc | ⟨later, hm, hc⟩
        · exact Or.inl hc
        · exact Or.inr ⟨later, List.mem_cons_of_mem _ hm, hc⟩

theorem utf8_encode (pairs : List (String × String)) :
    utf8 (encode pairs) = List.intercalate [ampersand] (pairs.map encodePair) := by
  refine utf8_ofAscii fun c hc => ?_
  rcases mem_intercalate hc with rfl | ⟨part, hm, hc⟩
  · decide
  · obtain ⟨pair, _, rfl⟩ := List.mem_map.mp hm
    exact (encodePair_plain pair c hc).1

/-- **What is written reads back,** whatever characters the names and the values have. -/
theorem decode_encode (pairs : List (String × String)) : decode (encode pairs) = pairs := by
  have hsegments : segments (encode pairs) = pairs.map encodePair := by
    unfold segments
    rw [utf8_encode]
    cases pairs with
    | nil => rfl
    | cons pair rest =>
      have hplain : ∀ part ∈ (pair :: rest).map encodePair, ampersand ∉ part := by
        intro part hm
        obtain ⟨pair, _, rfl⟩ := List.mem_map.mp hm
        exact fun hc => (encodePair_plain pair ampersand hc).2 rfl
      rw [pieces_intercalate (by simp) hplain, List.filter_eq_self]
      intro part hm
      obtain ⟨pair, _, rfl⟩ := List.mem_map.mp hm
      simp [encodePair]
  unfold decode
  rw [hsegments, List.map_map]
  exact List.map_id'' decodePair_encodePair pairs

/-! ## The characters of a value -/

/-- Texts of ASCII letters, digits, the signs `*-._+` and percent escapes. -/
inductive Plain : List Char → Prop
  | nil : Plain []
  | letter {c : Char} {rest : List Char} (h : c.isAlphanum = true ∨ c ∈ "*-._+".toList)
      (more : Plain rest) : Plain (c :: rest)
  | escape {high low : Char} {rest : List Char} (hhigh : high ∈ "0123456789ABCDEF".toList)
      (hlow : low ∈ "0123456789ABCDEF".toList) (more : Plain rest) :
      Plain ('%' :: high :: low :: rest)

theorem isKept_letter : ∀ n < 256, isKept (UInt8.ofNat n) = true →
    (asciiChar (UInt8.ofNat n)).isAlphanum = true ∨
      asciiChar (UInt8.ofNat n) ∈ "*-._+".toList := by
  decide +kernel

theorem Plain.byte (b : UInt8) {rest : List Char} (h : Plain rest) :
    Plain ((encodeByte b).map asciiChar ++ rest) := by
  unfold encodeByte
  by_cases hkept : isKept b = true
  · rw [if_pos hkept]
    have hletter := isKept_letter b.toNat b.toNat_lt
    rw [UInt8.ofNat_toNat] at hletter
    exact .letter (hletter hkept) h
  · rw [if_neg hkept]
    by_cases hspace : b = space
    · rw [if_pos hspace]
      exact .letter (by decide) h
    · have hb : b.toNat < 256 := b.toNat_lt
      rw [if_neg hspace]
      exact .escape (Percent.hexDigit_upper _ (by omega)) (Percent.hexDigit_upper _ (by omega)) h

theorem encodeComponent_letters (s : String) : Plain (ofAscii (encodeComponent s)).toList := by
  rw [ofAscii, String.toList_ofList, encodeComponent]
  induction utf8 s with
  | nil => exact .nil
  | cons b rest ih =>
    rw [List.flatMap_cons, List.map_append]
    exact ih.byte b

end RankedSearch.Text.FormEncoding
