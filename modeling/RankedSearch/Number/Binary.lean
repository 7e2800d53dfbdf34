/-! Binary floating point over exact numbers. A format has `precision` significant bits and a least
unit `2 ^ leastExponent`; a magnitude is stored as one number, its *code*, whose upper part counts
exponents and whose lower part holds the significand, so that codes are ordered like the magnitudes
they stand for and a significand that rounds up to the next power of two carries into the exponent
by itself. -/

namespace RankedSearch.Number

structure Format where
  precision : Nat
  leastExponent : Int
  /-- The code of infinity: larger than that of every finite magnitude. -/
  infinity : Nat
deriving DecidableEq, Repr

def singleFormat : Format := ⟨24, -149, 0x7F800000⟩
def doubleFormat : Format := ⟨53, -1074, 0x7FF0000000000000⟩

/-- A quotient rounded to the nearest whole number; a half goes to the even neighbour. -/
def roundDiv (num den : Nat) : Nat :=
  let whole := num / den
  let twice := 2 * (num % den)
  if twice < den then whole
  else if den < twice then whole + 1
  else whole + whole % 2

/-- The numerator and denominator of `num / den / 2 ^ exponent`. -/
def scaled (num den : Nat) (exponent : Int) : Nat × Nat :=
  match exponent with
  | .ofNat e => (num, den <<< e)
  | .negSucc e => (num <<< (e + 1), den)

/-- The exponent of the last place of `num / den` in the format. -/
def Format.unitExponent (f : Format) (num den : Nat) : Int :=
  let guess : Int := (num.log2 : Int) - den.log2 - f.precision
  let (n, d) := scaled num den guess
  max f.leastExponent (if n / d < 1 <<< f.precision then guess else guess + 1)

/-- The code of the magnitude nearest to `num / den`, for a positive `den`. -/
def Format.codeOfRatio (f : Format) (num den : Nat) : Nat :=
  if num = 0 then 0
  else
    let exponent := f.unitExponent num den
    let (n, d) := scaled num den exponent
    min f.infinity
      ((exponent - f.leastExponent).toNat <<< (f.precision - 1) + roundDiv n d)

/-- Significand and exponent of the magnitude with a finite code. -/
def Format.parts (f : Format) (code : Nat) : Nat × Int :=
  let hidden := 1 <<< (f.precision - 1)
  let field := code / hidden
  let fraction := code % hidden
  if field = 0 then (fraction, f.leastExponent)
  else (fraction + hidden, f.leastExponent + (field - 1 : Nat))

/-- A magnitude as a quotient of whole numbers. -/
def Format.ratioOfCode (f : Format) (code : Nat) : Nat × Nat :=
  let (significand, exponent) := f.parts code
  match exponent with
  | .ofNat e => (significand <<< e, 1)
  | .negSucc e => (significand, 1 <<< (e + 1))

/-! ## Decimal numbers -/

/-- The value `digits * 10 ^ exponent`. -/
structure Decimal where
  digits : Nat
  exponent : Int
deriving DecidableEq, Repr

/-- How many decimal digits the number has; zero has none. -/
def digitCount (n : Nat) : Nat := if n = 0 then 0 else (Nat.toDigits 10 n).length

/-- The code of the magnitude nearest to a decimal number. Numbers that are far beyond the format on
either side are told by their size alone, so that no huge power is ever computed. -/
def Format.codeOfDecimal (f : Format) (d : Decimal) : Nat :=
  let size : Int := digitCount d.digits + d.exponent
  if d.digits = 0 ∨ size < -400 then 0
  else if 400 < size then f.infinity
  else
    match d.exponent with
    | .ofNat e => f.codeOfRatio (d.digits * Nat.pow 10 e) 1
    | .negSucc e => f.codeOfRatio d.digits (Nat.pow 10 (e + 1))

/-! ## Arithmetic -/

/-- The product of two finite magnitudes, rounded. -/
def Format.mul (f : Format) (x y : Nat) : Nat :=
  let (a, b) := f.ratioOfCode x
  let (c, d) := f.ratioOfCode y
  f.codeOfRatio (a * c) (b * d)

/-- The quotient of two finite magnitudes, rounded; the second is positive. -/
def Format.div (f : Format) (x y : Nat) : Nat :=
  let (a, b) := f.ratioOfCode x
  let (c, d) := f.ratioOfCode y
  f.codeOfRatio (a * d) (b * c)

def Format.powerOfTen (f : Format) (n : Nat) : Nat := f.codeOfRatio (Nat.pow 10 n) 1

/-- The largest power of ten in double precision. -/
def largestPower : Nat := 308

/-- A decimal number in double precision the quick way: the digits are rounded, multiplied with a
power of ten or divided by one, and rounded again. A divisor that is too large goes in two steps. It
may miss the nearest magnitude by the last place. -/
def quickDouble (d : Decimal) : Nat :=
  let digits := doubleFormat.codeOfRatio d.digits 1
  let power := doubleFormat.powerOfTen
  match d.exponent with
  | .ofNat e =>
    if digits = 0 then 0
    else if largestPower < e then doubleFormat.infinity
    else doubleFormat.mul digits (power e)
  | .negSucc e =>
    if e < largestPower then doubleFormat.div digits (power (e + 1))
    else if e < 2 * largestPower then
      doubleFormat.div (doubleFormat.div digits (power largestPower)) (power (e + 1 - largestPower))
    else 0

/-! ## The shortest decimal -/

/-- A magnitude to `count` significant digits. -/
def Format.roundedDigits (f : Format) (code count : Nat) : Decimal :=
  let (num, den) := f.ratioOfCode code
  let whole := num / den
  -- The place of the first digit, counted from the point.
  let place : Int :=
    if 0 < whole then (digitCount whole : Int)
    else 1 - (digitCount (den / (num + 1)) : Int)
  let exponent := place - count
  match exponent with
  | .ofNat e => ⟨roundDiv num (den * Nat.pow 10 e), exponent⟩
  | .negSucc e => ⟨roundDiv (num * Nat.pow 10 (e + 1)) den, exponent⟩

/-- The first decimal, by number of digits, that reads back as the same magnitude. -/
def Format.shortDecimal (f : Format) (code : Nat) : Decimal :=
  ((List.range 20).findSome? fun n =>
    let d := f.roundedDigits code (n + 1)
    if f.codeOfDecimal d = code then some d else none).getD ⟨0, 0⟩

end RankedSearch.Number
