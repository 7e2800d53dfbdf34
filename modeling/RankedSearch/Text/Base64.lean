import RankedSearch.Text.Bytes

/-! Base64 without padding, in the standard and in the URL-safe alphabet. Three bytes become four
symbols of six bits each; one or two bytes at the end become two or three symbols whose unused bits
are zero. Reading refuses foreign symbols, lengths that no writing has and unused bits that are not
zero, and says where. -/

namespace RankedSearch.Text.Base64

/-- The two alphabets differ only in their last two symbols. -/
structure Alphabet where
  symbol62 : UInt8
  symbol63 : UInt8
deriving DecidableEq, Repr

def standard : Alphabet := ⟨0x2B, 0x2F⟩
def urlSafe : Alphabet := ⟨0x2D, 0x5F⟩

def Alphabet.symbol (a : Alphabet) (value : Nat) : UInt8 :=
  if value < 26 then UInt8.ofNat (0x41 + value)
  else if value < 52 then UInt8.ofNat (0x61 + (value - 26))
  else if value < 62 then UInt8.ofNat (0x30 + (value - 52))
  else if value = 62 then a.symbol62
  else a.symbol63

def Alphabet.value? (a : Alphabet) (symbol : UInt8) : Option Nat :=
  let n := symbol.toNat
  if symbol = a.symbol62 then some 62
  else if symbol = a.symbol63 then some 63
  else if 0x41 ≤ n ∧ n ≤ 0x5A then some (n - 0x41)
  else if 0x61 ≤ n ∧ n ≤ 0x7A then some (n - 0x61 + 26)
  else if 0x30 ≤ n ∧ n ≤ 0x39 then some (n - 0x30 + 52)
  else none

/-! ## Writing -/

/-- The six-bit values of the bytes. -/
def sextets : Bytes → List Nat
  | [] => []
  | [x] => [x.toNat / 4, x.toNat % 4 * 16]
  | [x, y] => [x.toNat / 4, x.toNat % 4 * 16 + y.toNat / 16, y.toNat % 16 * 4]
  | x :: y :: z :: rest =>
    x.toNat / 4 :: (x.toNat % 4 * 16 + y.toNat / 16) :: (y.toNat % 16 * 4 + z.toNat / 64) ::
      z.toNat % 64 :: sextets rest

def encode (a : Alphabet) (bytes : Bytes) : Bytes := (sextets bytes).map a.symbol

/-! ## Reading -/

inductive Fault
  /-- A byte that is no symbol of the alphabet. -/
  | symbol (byte : UInt8) (offset : Nat)
  /-- One symbol is left over after the groups of four. -/
  | length (symbols : Nat)
  /-- The last symbol has unused bits that are not zero. -/
  | lastSymbol (byte : UInt8) (offset : Nat)
deriving DecidableEq, Repr

def Fault.message : Fault → String
  | .symbol byte offset => s!"Invalid symbol {byte.toNat}, offset {offset}."
  | .length symbols => s!"Invalid input length: {symbols}"
  | .lastSymbol byte offset => s!"Invalid last symbol {byte.toNat}, offset {offset}."

/-- The bytes of six-bit values; `none` when unused bits are set or one value is left over. -/
def unsextets : List Nat → Option Bytes
  | [] => some []
  | [_] => none
  | [a, b] => if b % 16 = 0 then some [UInt8.ofNat (a * 4 + b / 16)] else none
  | [a, b, c] =>
    if c % 4 = 0 then some [UInt8.ofNat (a * 4 + b / 16), UInt8.ofNat (b % 16 * 16 + c / 4)]
    else none
  | a :: b :: c :: d :: rest =>
    (unsextets rest).map fun bytes =>
      UInt8.ofNat (a * 4 + b / 16) :: UInt8.ofNat (b % 16 * 16 + c / 4) ::
        UInt8.ofNat (c % 4 * 64 + d) :: bytes

/-- The first byte from `offset` on that is no symbol, with its place. -/
def firstForeign (a : Alphabet) (offset : Nat) : Bytes → Option (UInt8 × Nat)
  | [] => none
  | b :: rest =>
    if (a.value? b).isNone then some (b, offset) else firstForeign a (offset + 1) rest

/-- The byte to blame for a foreign symbol. Where one symbol is left over, a foreign last byte is
blamed before any other, for it is most likely a line end that was copied along. -/
def foreign? (a : Alphabet) (symbols : Bytes) : Option (UInt8 × Nat) :=
  match symbols.getLast? with
  | some last =>
    if symbols.length % 4 = 1 ∧ (a.value? last).isNone then some (last, symbols.length - 1)
    else firstForeign a 0 symbols
  | none => none

def decode (a : Alphabet) (symbols : Bytes) : Except Fault Bytes :=
  match foreign? a symbols with
  | some (byte, offset) => .error (.symbol byte offset)
  | none =>
    if symbols.length % 4 = 1 then .error (.length symbols.length)
    else
      match unsextets (symbols.filterMap a.value?) with
      | some bytes => .ok bytes
      | none => .error (.lastSymbol (symbols.getLast?.getD 0) (symbols.length - 1))

end RankedSearch.Text.Base64
