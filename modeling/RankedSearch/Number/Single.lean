import RankedSearch.Number.Binary

/-! Single-precision numbers as their 32 bits. Scores and precision figures are never compared as
numbers, only carried along and printed, so equality is that of the bits. -/

namespace RankedSearch.Number

structure Single where
  bits : UInt32
deriving DecidableEq, Repr, Inhabited

namespace Single

def signBit : Nat := 0x80000000

def ofCode (negative : Bool) (code : Nat) : Single :=
  ⟨UInt32.ofNat (if negative then signBit + code else code)⟩

def zero : Single := ⟨0⟩

def isNegative (x : Single) : Bool := signBit ≤ x.bits.toNat

/-- The code of the magnitude. -/
def code (x : Single) : Nat := x.bits.toNat % signBit

def isFinite (x : Single) : Bool := x.code < singleFormat.infinity

/-- The number nearest to `num / den`. -/
def ofRatio (num : Int) (den : Nat) : Single :=
  ofCode (num < 0) (singleFormat.codeOfRatio num.natAbs den)

def ofNat (n : Nat) : Single := ofRatio n 1

/-- The value of a finite number as a quotient. -/
def toRatio (x : Single) : Int × Nat :=
  let (num, den) := singleFormat.ratioOfCode x.code
  (if x.isNegative then -num else num, den)

/-! ## Arithmetic on finite numbers: the exact result, rounded once -/

def add (x y : Single) : Single :=
  let (a, b) := x.toRatio
  let (c, d) := y.toRatio
  ofRatio (a * d + c * b) (b * d)

def sub (x y : Single) : Single :=
  let (a, b) := x.toRatio
  let (c, d) := y.toRatio
  ofRatio (a * d - c * b) (b * d)

def mul (x y : Single) : Single :=
  let (a, b) := x.toRatio
  let (c, d) := y.toRatio
  ofRatio (a * c) (b * d)

/-- The quotient by a positive whole number. -/
def divNat (x : Single) (n : Nat) : Single :=
  let (a, b) := x.toRatio
  ofRatio a (b * n)

/-! ## Text -/

/-- The number with a fixed number of places, as a quantity in a report. -/
def toFixed (places : Nat) (x : Single) : String :=
  let magnitude :=
    if x.isFinite then
      let (num, den) := singleFormat.ratioOfCode x.code
      let digits := Nat.toDigits 10 (roundDiv (num * Nat.pow 10 places) den)
      let padded := List.replicate (places + 1 - digits.length) '0' ++ digits
      let cut := padded.length - places
      String.ofList (padded.take cut ++ ['.'] ++ padded.drop cut)
    else if x.code = singleFormat.infinity then "inf"
    else "NaN"
  if x.isNegative ∧ magnitude ≠ "NaN" then "-" ++ magnitude else magnitude

/-- The eight lower-case digits of the bits. -/
def hex (x : Single) : String :=
  let digits := Nat.toDigits 16 x.bits.toNat
  String.ofList (List.replicate (8 - digits.length) '0' ++ digits)

end Single

end RankedSearch.Number
