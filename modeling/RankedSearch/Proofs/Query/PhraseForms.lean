import RankedSearch.Proofs.Text.Base64
import RankedSearch.Query.Phrase

/-! # The written forms of a phrase

A text reads as a phrase just if it is base64 of some words, in one of the two alphabets, between
blanks and before padding. The words need not be the phrase itself, for the blanks around them are
dropped; but nothing else is tolerated, as each alphabet has one form for each text. -/
namespace RankedSearch.Query.Phrase

open RankedSearch.Text

/-- The alphabets in which phrases are read, the one in which they are written first. -/
def alphabets : List Base64.Alphabet := [Base64.urlSafe, Base64.standard]

/-- The form of a text in an alphabet. -/
def written (a : Base64.Alphabet) (words : String) : String :=
  ofAscii (Base64.encode a (utf8 words))

theorem written_urlSafe (p : Phrase) : written Base64.urlSafe p.words = p.encode := rfl

theorem faithful_of_mem {a : Base64.Alphabet} (ha : a ∈ alphabets) : a.Faithful := by
  simp only [alphabets, List.mem_cons, List.not_mem_nil, or_false] at ha
  rcases ha with rfl | rfl
  · exact Base64.Alphabet.faithful_urlSafe
  · exact Base64.Alphabet.faithful_standard

/-! ## Symbols in a text -/

/-- Symbols are ASCII, and neither blanks nor padding. -/
theorem symbol_plain : ∀ a ∈ alphabets, ∀ v < 64, (a.symbol v).toNat < 128 ∧
    isBlank (asciiChar (a.symbol v)) = false ∧ (asciiChar (a.symbol v) == '=') = false := by
  decide +kernel

theorem encode_plain {a : Base64.Alphabet} (ha : a ∈ alphabets) (bytes : Bytes) :
    ∀ b ∈ Base64.encode a bytes,
      b.toNat < 128 ∧ isBlank (asciiChar b) = false ∧ (asciiChar b == '=') = false := by
  intro b hb
  obtain ⟨v, hv, rfl⟩ := List.mem_map.mp hb
  exact symbol_plain a ha v (Base64.sextets_lt bytes v hv)

/-- Padding after a written form is dropped, and nothing of the form is. -/
theorem trim_written {a : Base64.Alphabet} (ha : a ∈ alphabets) (words : String) (padding : Nat) :
    trimEndChar '=' (trim (written a words ++ String.ofList (List.replicate padding '='))) =
      written a words := by
  have hplain := encode_plain ha (utf8 words)
  have hchars : (written a words).toList = (Base64.encode a (utf8 words)).map asciiChar := by
    simp [written, ofAscii]
  have hblank : ∀ c ∈ (written a words).toList ++ List.replicate padding '=', isBlank c = false := by
    intro c hc
    rw [hchars, List.mem_append] at hc
    rcases hc with hc | hc
    · obtain ⟨b, hb, rfl⟩ := List.mem_map.mp hc
      exact (hplain b hb).2.1
    · rw [List.eq_of_mem_replicate hc]
      decide
  have hform : ∀ c ∈ (written a words).toList, (c == '=') = false := by
    intro c hc
    rw [hchars] at hc
    obtain ⟨b, hb, rfl⟩ := List.mem_map.mp hc
    exact (hplain b hb).2.2
  have hpadding : ∀ c ∈ List.replicate padding '=', (c == '=') = true := by
    intro c hc
    rw [List.eq_of_mem_replicate hc]
    rfl
  apply String.toList_inj.mp
  rw [toList_trimEndChar, toList_trim, String.toList_append, String.toList_ofList,
    trimList_of_forall hblank, dropEndWhile_append hform hpadding]

/-! ## Reading -/

/-- The second alphabet is asked only if the first one fails, which makes no difference. -/
theorem bytesOf_eq_ok_iff {symbols bytes : Bytes} :
    bytesOf symbols = .ok bytes ↔ ∃ a ∈ alphabets, symbols = Base64.encode a bytes := by
  have hread {a : Base64.Alphabet} (ha : a ∈ alphabets) {bytes : Bytes} :
      Base64.decode a symbols = .ok bytes ↔ symbols = Base64.encode a bytes :=
    Base64.decode_eq_ok_iff (faithful_of_mem ha)
  have hurl : Base64.urlSafe ∈ alphabets := by simp [alphabets]
  have hstandard : Base64.standard ∈ alphabets := by simp [alphabets]
  constructor
  · intro h
    unfold bytesOf at h
    split at h
    · rename_i read hfirst
      cases h
      exact ⟨_, hurl, (hread hurl).mp hfirst⟩
    · split at h
      · rename_i read hsecond
        cases h
        exact ⟨_, hstandard, (hread hstandard).mp hsecond⟩
      · cases h
  · rintro ⟨a, ha, he⟩
    unfold bytesOf
    simp only [alphabets, List.mem_cons, List.not_mem_nil, or_false] at ha
    rcases ha with rfl | rfl
    · rw [(hread hurl).mpr he]
    · rw [(hread hstandard).mpr he]
      split
      · rename_i read hfirst
        -- both alphabets can read it, and then they agree
        have hboth := (hread hurl).mp hfirst
        rw [Base64.encode_agree (hboth.symm.trans he)]
      · rfl

theorem ofText_words_iff {raw t : String} :
    (ofText raw).map words = .ok t ↔ trim raw = t ∧ t ≠ "" := by
  unfold ofText
  by_cases hblank : trim raw = ""
  · rw [dif_pos hblank]
    refine iff_of_false (by rintro ⟨⟩) ?_
    rintro ⟨rfl, hne⟩
    exact hne hblank
  · rw [dif_neg hblank]
    constructor
    · intro h
      cases h
      exact ⟨rfl, hblank⟩
    · rintro ⟨rfl, _⟩
      rfl

theorem decode_words_iff {s t : String} :
    (decode s).map words = .ok t ↔ ∃ raw, trim raw = t ∧ t ≠ "" ∧
      ∃ a ∈ alphabets, trimEndChar '=' (trim s) = written a raw := by
  have hform {a : Base64.Alphabet} (ha : a ∈ alphabets) (raw : String) :
      utf8 (trimEndChar '=' (trim s)) = Base64.encode a (utf8 raw) ↔
        trimEndChar '=' (trim s) = written a raw :=
    utf8_eq_iff fun b hb => (encode_plain ha (utf8 raw) b hb).1
  constructor
  · intro h
    unfold decode at h
    split at h
    · cases h
    · rename_i bytes hbytes
      split at h
      · cases h
      · rename_i raw hraw
        obtain ⟨htrim, hne⟩ := ofText_words_iff.mp h
        obtain ⟨a, ha, he⟩ := bytesOf_eq_ok_iff.mp hbytes
        rw [ofUtf8?_eq_some_iff.mp hraw] at he
        exact ⟨raw, htrim, hne, a, ha, (hform ha raw).mp he⟩
  · rintro ⟨raw, htrim, hne, a, ha, he⟩
    have hbytes : bytesOf (utf8 (trimEndChar '=' (trim s))) = .ok (utf8 raw) :=
      bytesOf_eq_ok_iff.mpr ⟨a, ha, (hform ha raw).mpr he⟩
    unfold decode
    rw [hbytes]
    dsimp only
    rw [ofUtf8?_utf8]
    exact ofText_words_iff.mpr ⟨htrim, hne⟩

theorem words_injective {p q : Phrase} (h : p.words = q.words) : p = q := by
  obtain ⟨words, _, _⟩ := p
  cases h
  rfl

/-- A phrase reads back from its form in either alphabet, whatever padding follows. -/
theorem decode_written {a : Base64.Alphabet} (ha : a ∈ alphabets) (p : Phrase) (padding : Nat) :
    decode (written a p.words ++ String.ofList (List.replicate padding '=')) = .ok p := by
  have hwords := decode_words_iff.mpr
    ⟨p.words, p.trimmed, p.nonempty, a, ha, trim_written ha p.words padding⟩
  cases hread : decode (written a p.words ++ String.ofList (List.replicate padding '=')) with
  | error fault => rw [hread] at hwords; cases hwords
  | ok q =>
    rw [hread] at hwords
    rw [words_injective (Except.ok.inj hwords)]

/-- **A text reads as a phrase just if it is a written form.** Between blanks and before padding it
is base64 without padding, in one alphabet or the other, of a text that trims to the phrase; and
what is read is trimmed and not empty. So a phrase reads back from the form it is written in, and
from its form in either alphabet with any padding. -/
theorem decode_iff_written :
    (∀ s t, (decode s).map words = .ok t ↔ ∃ raw, trim raw = t ∧ t ≠ "" ∧
      ∃ a ∈ alphabets, trimEndChar '=' (trim s) = ofAscii (Base64.encode a (utf8 raw))) ∧
    (∀ p : Phrase, decode p.encode = .ok p) ∧
    (∀ p : Phrase, ∀ a ∈ alphabets, ∀ padding,
      decode (ofAscii (Base64.encode a (utf8 p.words)) ++
        String.ofList (List.replicate padding '=')) = .ok p) ∧
    ∀ s t, (decode s).map words = .ok t → trim t = t ∧ t ≠ "" := by
  refine ⟨fun s t => decode_words_iff, fun p => ?_, fun p a ha padding => decode_written ha p padding,
    fun s t h => ?_⟩
  · have hplain := decode_written (List.mem_cons_self ..) p 0
    rwa [List.replicate_zero, String.ofList_nil, String.append_empty, written_urlSafe] at hplain
  · obtain ⟨raw, htrim, hne, _⟩ := decode_words_iff.mp h
    exact ⟨by rw [← htrim, trim_trim], hne⟩

/-- The standard form of three question marks, in which both the alphabets and the padding show. -/
theorem decode_iff_written_standard :
    Base64.standard ∈ alphabets ∧
      (decode " Pz8/== ").map words = .ok "???" ∧ trim "???" = "???" ∧
      decode (ofAscii (Base64.encode Base64.standard (utf8 "???")) ++ "==") =
        .ok ⟨"???", by decide +kernel, by decide⟩ := by
  obtain ⟨hforms, _, hpadded, hread⟩ := decode_iff_written
  have hmem : Base64.standard ∈ alphabets := by simp [alphabets]
  have h : (decode " Pz8/== ").map words = .ok "???" :=
    (hforms _ _).mpr ⟨"???", by decide +kernel, by decide, Base64.standard, hmem, by decide +kernel⟩
  exact ⟨hmem, h, (hread _ _ h).1, hpadded ⟨"???", by decide +kernel, by decide⟩ _ hmem 2⟩

end RankedSearch.Query.Phrase
