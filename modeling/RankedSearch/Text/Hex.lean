/-! Hexadecimal digits of either case. -/

namespace RankedSearch.Text.Hex

def value? (c : Char) : Option Nat :=
  if c.isDigit then some (c.toNat - 0x30)
  else if 'a' ≤ c ∧ c ≤ 'f' then some (c.toNat - 0x61 + 10)
  else if 'A' ≤ c ∧ c ≤ 'F' then some (c.toNat - 0x41 + 10)
  else none

/-- The number that digits write, the first of them the highest; `none` if one is no digit. -/
def number? (digits : List Char) : Option Nat :=
  digits.foldlM (fun n c => (value? c).map (n * 16 + ·)) 0

end RankedSearch.Text.Hex
