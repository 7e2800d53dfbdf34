import RankedSearch.Text.Bytes

/-! Percent escapes: a byte as a percent sign and two hexadecimal digits. Which bytes stand for
themselves differs from format to format. -/

namespace RankedSearch.Text.Percent

def percentSign : UInt8 := 0x25

def isAlphanumeric (b : UInt8) : Bool :=
  let n := b.toNat
  (0x30 ≤ n && n ≤ 0x39) || (0x41 ≤ n && n ≤ 0x5A) || (0x61 ≤ n && n ≤ 0x7A)

/-- The upper-case digit of a value below 16. -/
def hexDigit (value : Nat) : UInt8 :=
  if value < 10 then UInt8.ofNat (0x30 + value) else UInt8.ofNat (0x41 + (value - 10))

def hexValue? (digit : UInt8) : Option Nat :=
  let n := digit.toNat
  if 0x30 ≤ n ∧ n ≤ 0x39 then some (n - 0x30)
  else if 0x41 ≤ n ∧ n ≤ 0x46 then some (n - 0x41 + 10)
  else if 0x61 ≤ n ∧ n ≤ 0x66 then some (n - 0x61 + 10)
  else none

/-- A percent sign and the two digits of the byte. -/
def escape (b : UInt8) : Bytes := [percentSign, hexDigit (b.toNat / 16), hexDigit (b.toNat % 16)]

/-- The byte that two digits write, if they are digits. -/
def escaped? (high low : UInt8) : Option UInt8 := do
  let h ← hexValue? high
  let l ← hexValue? low
  return UInt8.ofNat (h * 16 + l)

/-- Escapes the bytes that are not kept. -/
def encodeBytes (isKept : UInt8 → Bool) (bs : Bytes) : Bytes :=
  bs.flatMap fun b => if isKept b then [b] else escape b

def encode (isKept : UInt8 → Bool) (s : String) : String := ofAscii (encodeBytes isKept (utf8 s))

/-- Replaces the escapes by their bytes. A percent sign that starts none stands for itself. -/
def unescape : Bytes → Bytes
  | b :: high :: low :: rest =>
    match if b = percentSign then escaped? high low else none with
    | some byte => byte :: unescape rest
    | none => b :: unescape (high :: low :: rest)
  | short => short

theorem hexDigit_upper : ∀ n < 16, asciiChar (hexDigit n) ∈ "0123456789ABCDEF".toList := by
  decide

theorem escaped?_hexDigit : ∀ n < 256,
    escaped? (hexDigit (n / 16)) (hexDigit (n % 16)) = some (UInt8.ofNat n) := by
  decide +kernel

theorem unescape_cons {b : UInt8} (h : b ≠ percentSign) (rest : Bytes) :
    unescape (b :: rest) = b :: unescape rest := by
  match rest with
  | [] => rfl
  | [_] => rfl
  | _ :: _ :: _ => rw [unescape, if_neg h]

/-- An escape stands for its byte, whatever follows. -/
theorem unescape_escape (b : UInt8) (rest : Bytes) :
    unescape (escape b ++ rest) = b :: unescape rest := by
  have hread := escaped?_hexDigit b.toNat b.toNat_lt
  rw [UInt8.ofNat_toNat] at hread
  show unescape (percentSign :: hexDigit (b.toNat / 16) :: hexDigit (b.toNat % 16) :: rest) = _
  rw [unescape, if_pos rfl, hread]

/-! ## What is encoded is read back -/

/-- An escape is a percent sign and digits. -/
theorem mem_escape {b c : UInt8} (hc : c ∈ escape b) :
    c = percentSign ∨ isAlphanumeric c = true := by
  have hdigit : ∀ n < 16, isAlphanumeric (hexDigit n) = true := by decide
  have hb := b.toNat_lt
  simp only [escape, List.mem_cons, List.not_mem_nil, or_false] at hc
  rcases hc with rfl | rfl | rfl
  · exact .inl rfl
  · exact .inr (hdigit _ (by omega))
  · exact .inr (hdigit _ (by omega))

theorem mem_encodeBytes {isKept : UInt8 → Bool} {bs : Bytes} {c : UInt8}
    (hc : c ∈ encodeBytes isKept bs) :
    isKept c = true ∨ c = percentSign ∨ isAlphanumeric c = true := by
  obtain ⟨b, _, hb⟩ := List.mem_flatMap.mp hc
  split at hb
  · rename_i hkept
    cases List.mem_singleton.mp hb
    exact .inl hkept
  · exact .inr (mem_escape hb)

theorem unescape_encodeBytes {isKept : UInt8 → Bool} (h : isKept percentSign = false)
    (bs : Bytes) : unescape (encodeBytes isKept bs) = bs := by
  induction bs with
  | nil => rfl
  | cons b rest ih =>
    show unescape ((if isKept b then [b] else escape b) ++ encodeBytes isKept rest) = _
    by_cases hkept : isKept b = true
    · have hpercent : b ≠ percentSign := by
        rintro rfl
        rw [h] at hkept
        cases hkept
      rw [if_pos hkept, List.singleton_append, unescape_cons hpercent, ih]
    · rw [if_neg hkept, unescape_escape, ih]

/-- What is kept is of ASCII, and a percent sign is not. -/
structure IsReadable (isKept : UInt8 → Bool) : Prop where
  ascii : ∀ b, isKept b = true → b.toNat < 128
  percent : isKept percentSign = false

namespace IsReadable

variable {isKept : UInt8 → Bool}

theorem utf8_encode (h : IsReadable isKept) (s : String) :
    utf8 (encode isKept s) = encodeBytes isKept (utf8 s) := by
  refine utf8_ofAscii fun c hc => ?_
  rcases mem_encodeBytes hc with hkept | rfl | hdigit
  · exact h.ascii c hkept
  · decide
  · simp only [isAlphanumeric, Bool.or_eq_true, Bool.and_eq_true, decide_eq_true_eq] at hdigit
    omega

/-- **Escapes are undone.** -/
theorem unescape_encode (h : IsReadable isKept) (s : String) :
    unescape (utf8 (encode isKept s)) = utf8 s := by
  rw [h.utf8_encode, unescape_encodeBytes h.percent]

end IsReadable

end RankedSearch.Text.Percent
