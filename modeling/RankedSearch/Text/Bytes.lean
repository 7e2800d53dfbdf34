/-! A text as the bytes of its UTF-8 form, and back. Reading back is either strict, and then it
accepts exactly the bytes of a text, or lossy: every maximal piece that no text can hold becomes one
replacement character. -/

namespace RankedSearch.Text

abbrev Bytes := List UInt8

def utf8 (s : String) : Bytes := s.toUTF8.data.toList

def ofUtf8? (bs : Bytes) : Option String := String.fromUTF8? ⟨bs.toArray⟩

theorem ofUtf8?_eq_some_iff {bs : Bytes} {s : String} : ofUtf8? bs = some s ↔ bs = utf8 s := by
  unfold ofUtf8? utf8 String.fromUTF8?
  constructor
  · intro h
    split at h
    · cases h
      simp [String.fromUTF8]
    · cases h
  · rintro rfl
    have h : (⟨s.toUTF8.data.toList.toArray⟩ : ByteArray) = s.toUTF8 := by simp
    rw [h, String.toUTF8_eq_toByteArray, dif_pos s.isValidUTF8]
    rfl

@[simp] theorem ofUtf8?_utf8 (s : String) : ofUtf8? (utf8 s) = some s :=
  ofUtf8?_eq_some_iff.2 rfl

theorem utf8_injective {s t : String} (h : utf8 s = utf8 t) : s = t :=
  Option.some.inj ((ofUtf8?_utf8 s).symm.trans ((congrArg ofUtf8? h).trans (ofUtf8?_utf8 t)))

theorem utf8_append (s t : String) : utf8 (s ++ t) = utf8 s ++ utf8 t := by
  unfold utf8
  rw [String.toUTF8_eq_toByteArray, String.toByteArray_append]
  simp

/-- What holds of the first numbers as bytes holds of all bytes. -/
theorem forall_byte {P : UInt8 → Prop} (h : ∀ n < 256, P (UInt8.ofNat n)) (b : UInt8) : P b := by
  have hb := h b.toNat b.toNat_lt
  rwa [UInt8.ofNat_toNat] at hb

/-! ## Lossy reading -/

def replacement : Char := Char.ofNat 0xFFFD

/-- The start of a character: what its bytes have said so far, how many are still due, and the
bounds of the next one. -/
structure Unfinished where
  code : Nat
  due : Nat
  low : UInt8
  high : UInt8

inductive Lead
  | whole (c : Char)
  | start (u : Unfinished)
  | stray

/-- Reads a first byte. The bounds of the second byte leave out overlong forms, surrogates and what
lies beyond the last code point. -/
def Lead.of (b : UInt8) : Lead :=
  let n := b.toNat
  if n < 0x80 then .whole (Char.ofNat n)
  else if n < 0xC2 then .stray
  else if n < 0xE0 then .start ⟨n - 0xC0, 1, 0x80, 0xBF⟩
  else if n = 0xE0 then .start ⟨0, 2, 0xA0, 0xBF⟩
  else if n = 0xED then .start ⟨0xD, 2, 0x80, 0x9F⟩
  else if n < 0xF0 then .start ⟨n - 0xE0, 2, 0x80, 0xBF⟩
  else if n = 0xF0 then .start ⟨0, 3, 0x90, 0xBF⟩
  else if n < 0xF4 then .start ⟨n - 0xF0, 3, 0x80, 0xBF⟩
  else if n = 0xF4 then .start ⟨4, 3, 0x80, 0x8F⟩
  else .stray

/-- Takes in one more byte of an unfinished character. -/
def Unfinished.push (u : Unfinished) (b : UInt8) : Lead :=
  let code := u.code * 64 + (b.toNat - 0x80)
  if u.due ≤ 1 then .whole (Char.ofNat code) else .start ⟨code, u.due - 1, 0x80, 0xBF⟩

def repairFrom (pending : Option Unfinished) : Bytes → List Char
  | [] => if pending.isSome then [replacement] else []
  | b :: rest =>
    let read : Lead → List Char
      | .whole c => c :: repairFrom none rest
      | .start u => repairFrom (some u) rest
      | .stray => replacement :: repairFrom none rest
    match pending with
    | none => read (Lead.of b)
    | some u =>
      if u.low ≤ b ∧ b ≤ u.high then read (u.push b) else replacement :: read (Lead.of b)

/-- The text of the bytes where they are the bytes of one, else the repaired text. -/
def ofUtf8Lossy (bs : Bytes) : String :=
  (ofUtf8? bs).getD (String.ofList (repairFrom none bs))

@[simp] theorem ofUtf8Lossy_utf8 (s : String) : ofUtf8Lossy (utf8 s) = s := by simp [ofUtf8Lossy]

/-! ## ASCII -/

/-- A byte below 128 as the character it stands for. -/
def asciiChar (b : UInt8) : Char := Char.ofNat b.toNat

/-- The text made of ASCII bytes. -/
def ofAscii (bs : Bytes) : String := String.ofList (bs.map asciiChar)

theorem utf8_ofList (cs : List Char) :
    utf8 (String.ofList cs) = cs.flatMap String.utf8EncodeChar := by
  unfold utf8
  rw [String.toUTF8_eq_toByteArray, String.toByteArray_ofList]
  simp [List.utf8Encode]

theorem toNat_asciiChar {b : UInt8} (h : b.toNat < 128) : (asciiChar b).toNat = b.toNat := by
  have hv : b.toNat.isValidChar := Or.inl (by omega)
  unfold asciiChar Char.ofNat
  rw [dif_pos hv]
  rfl

/-- An ASCII character is one byte. -/
theorem utf8EncodeChar_asciiChar {b : UInt8} (h : b.toNat < 128) :
    String.utf8EncodeChar (asciiChar b) = [b] := by
  have hn := toNat_asciiChar h
  have hsize : (asciiChar b).utf8Size = 1 := by
    rw [Char.utf8Size_eq_one_iff, UInt32.le_iff_toNat_le]
    show (asciiChar b).toNat ≤ 127
    omega
  rw [String.utf8EncodeChar_eq_singleton hsize]
  congr 1
  rw [← UInt8.toNat_inj, UInt32.toNat_toUInt8]
  show (asciiChar b).toNat % 256 = b.toNat
  omega

/-- ASCII bytes are the UTF-8 form of their text. -/
theorem utf8_ofAscii {bs : Bytes} (h : ∀ b ∈ bs, b.toNat < 128) : utf8 (ofAscii bs) = bs := by
  rw [ofAscii, utf8_ofList, List.flatMap_map]
  induction bs with
  | nil => rfl
  | cons b rest ih =>
    obtain ⟨hb, hrest⟩ := List.forall_mem_cons.mp h
    rw [List.flatMap_cons, utf8EncodeChar_asciiChar hb, ih hrest]
    rfl

theorem utf8_eq_iff {s : String} {bs : Bytes} (h : ∀ b ∈ bs, b.toNat < 128) :
    utf8 s = bs ↔ s = ofAscii bs := by
  constructor
  · intro hs
    exact utf8_injective (hs.trans (utf8_ofAscii h).symm)
  · rintro rfl
    exact utf8_ofAscii h

end RankedSearch.Text
