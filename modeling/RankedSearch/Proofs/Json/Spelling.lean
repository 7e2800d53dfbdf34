import RankedSearch.Json.Parser
import RankedSearch.Json.Printer

/-! # The spellings of a string

The standard leaves it to the writer of a string how each of its characters is put down: as itself
unless it is a control, a quotation mark or a backslash, by a short escape if it has one, or by the
escapes of its 16-bit units, in digits of either case. A string reads the same in every spelling, and
the printer's is one of them. -/
namespace RankedSearch.Json

open RankedSearch.Json.Parser

/-- The ways to write one character. -/
inductive Spelling : Char → List Char → Prop
  | plain {c : Char} (hcontrol : 0x20 ≤ c.toNat) (hquote : c ≠ '"') (hslash : c ≠ '\\') :
      Spelling c [c]
  | short {c letter : Char} (h : shortEscape? letter = some c) : Spelling c ['\\', letter]
  | unit {c d₁ d₂ d₃ d₄ : Char} (h : unit? d₁ d₂ d₃ d₄ = some c.toNat) :
      Spelling c ['\\', 'u', d₁, d₂, d₃, d₄]
  /-- A character that takes two units. -/
  | pair {c d₁ d₂ d₃ d₄ e₁ e₂ e₃ e₄ : Char} {first second : Nat}
      (hfirst : unit? d₁ d₂ d₃ d₄ = some first) (hsecond : unit? e₁ e₂ e₃ e₄ = some second)
      (hhigh : isHighSurrogate first = true) (hlow : isLowSurrogate second = true)
      (hc : c.toNat = 0x10000 + (first - 0xD800) * 0x400 + (second - 0xDC00)) :
      Spelling c ['\\', 'u', d₁, d₂, d₃, d₄, '\\', 'u', e₁, e₂, e₃, e₄]

/-- The ways to write the characters of a string. -/
inductive Spelled : List Char → List Char → Prop
  | nil : Spelled [] []
  | cons {c : Char} {cs word text : List Char} (h : Spelling c word) (hs : Spelled cs text) :
      Spelled (c :: cs) (word ++ text)

/-! ## Reading -/

theorem Parser.stringFrom?_plain {c : Char} (hcontrol : 0x20 ≤ c.toNat) (hquote : c ≠ '"')
    (hslash : c ≠ '\\') (rest : List Char) :
    stringFrom? none (c :: rest) = addChar c (stringFrom? none rest) := by
  have hplain : ¬(c.toNat < 0x20 ∨ c = '\\') := not_or.mpr ⟨Nat.not_lt.mpr hcontrol, hslash⟩
  rw [stringFrom?]
  · rw [if_neg hplain]
    rfl
  · exact hquote
  · rintro _ _ _ _ _ rfl
    exact absurd rfl hslash
  · rintro _ _ rfl
    exact absurd rfl hslash

theorem Parser.stringFrom?_short {c letter : Char} (h : shortEscape? letter = some c)
    (rest : List Char) :
    stringFrom? none ('\\' :: letter :: rest) = addChar c (stringFrom? none rest) := by
  unfold shortEscape? at h
  split at h <;> cases h <;> rfl

/-- No character is half of a surrogate pair. -/
theorem Parser.not_surrogate (c : Char) :
    isHighSurrogate c.toNat = false ∧ isLowSurrogate c.toNat = false := by
  have hvalid : c.toNat < 0xD800 ∨ 0xDFFF < c.toNat := by
    rcases c.valid with hlow | ⟨hhigh, _⟩
    · exact Or.inl hlow
    · exact Or.inr hhigh
  unfold isHighSurrogate isLowSurrogate
  simp only [Bool.and_eq_false_iff, decide_eq_false_iff_not]
  omega

theorem Spelling.read {c : Char} {word : List Char} (h : Spelling c word) (rest : List Char) :
    stringFrom? none (word ++ rest) = addChar c (stringFrom? none rest) := by
  cases h with
  | plain hcontrol hquote hslash => exact stringFrom?_plain hcontrol hquote hslash rest
  | short h => exact stringFrom?_short h rest
  | unit h =>
    obtain ⟨hhigh, hlow⟩ := not_surrogate c
    simp [stringFrom?, h, hhigh, hlow, Char.ofNat_toNat]
  | pair hfirst hsecond hhigh hlow hc =>
    simp [stringFrom?, hfirst, hsecond, hhigh, hlow, ← hc, Char.ofNat_toNat]

theorem Spelled.read_chars {cs text : List Char} (h : Spelled cs text) (rest : List Char) :
    stringFrom? none (text ++ '"' :: rest) = some (some cs, rest) := by
  induction h with
  | nil => rfl
  | cons hword _ ih =>
    rw [List.append_assoc, hword.read, ih]
    rfl

/-- **A string reads the same in every spelling.** -/
theorem Spelled.read {s : String} {text : List Char} (h : Spelled s.toList text)
    (rest : List Char) : string? (text ++ '"' :: rest) = some (some s, rest) := by
  unfold string?
  rw [h.read_chars]
  simp

/-! ## Printing -/

theorem Parser.value?_hexDigit : ∀ d < 16, Text.Hex.value? (Printer.hexDigit d) = some d := by
  decide

theorem Parser.unit?_hexDigits {n : Nat} (h : n < 0x10000) :
    unit? (Printer.hexDigit (n / 4096 % 16)) (Printer.hexDigit (n / 256 % 16))
      (Printer.hexDigit (n / 16 % 16)) (Printer.hexDigit (n % 16)) = some n := by
  have hdigit (k : Nat) := value?_hexDigit (k % 16) (by omega)
  simp only [unit?, Text.Hex.number?, List.foldlM_cons, List.foldlM_nil, hdigit, Option.map_some,
    Option.bind_eq_bind, Option.bind_some, Option.pure_def, Option.some.injEq]
  omega

/-- A character beyond the first 16 bits is printed by two units. -/
theorem spelling_pair {c : Char} (h : 0x10000 ≤ c.toNat) :
    Spelling c (Printer.unit (0xD800 + (c.toNat - 0x10000) / 0x400) ++
      Printer.unit (0xDC00 + (c.toNat - 0x10000) % 0x400)) := by
  have hbound : c.toNat < 0x110000 := by
    rcases c.valid with hlow | ⟨_, hhigh⟩
    · exact Nat.lt_trans hlow (by decide)
    · exact hhigh
  generalize hfirst : 0xD800 + (c.toNat - 0x10000) / 0x400 = first
  generalize hsecond : 0xDC00 + (c.toNat - 0x10000) % 0x400 = second
  refine .pair (unit?_hexDigits (by omega)) (unit?_hexDigits (by omega)) ?_ ?_ (by omega)
  · simp only [isHighSurrogate, Bool.and_eq_true, decide_eq_true_eq]
    omega
  · simp only [isLowSurrogate, Bool.and_eq_true, decide_eq_true_eq]
    omega

theorem spelling_char (c : Char) : Spelling c (Printer.char c) := by
  unfold Printer.char
  dsimp only
  by_cases hquote : c = '"'
  · rw [if_pos hquote, hquote]
    exact .short rfl
  by_cases hslash : c = '\\'
  · rw [if_neg hquote, if_pos hslash, hslash]
    exact .short rfl
  rw [if_neg hquote, if_neg hslash]
  by_cases hprinted : 0x20 ≤ c.toNat ∧ c.toNat < 0x7F
  · rw [if_pos hprinted]
    exact .plain hprinted.1 hquote hslash
  rw [if_neg hprinted]
  by_cases hunit : c.toNat < 0x10000
  · rw [if_pos hunit]
    exact .unit (unit?_hexDigits hunit)
  · rw [if_neg hunit]
    exact spelling_pair (Nat.le_of_not_lt hunit)

theorem spelled_chars (cs : List Char) : Spelled cs (cs.flatMap Printer.char) := by
  induction cs with
  | nil => exact .nil
  | cons c cs ih => exact .cons (spelling_char c) ih

end RankedSearch.Json
