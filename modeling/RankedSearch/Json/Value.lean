import RankedSearch.Number.Single

/-! JSON values as a text writes them. Numbers keep their digits, objects keep their members in
order and repeated ones too, and a string whose escapes leave half of a surrogate pair keeps its
place without a text. What a reader makes of these is its own affair: some ignore them, some refuse
them. -/

namespace RankedSearch.Json

open RankedSearch.Number

/-- A number as it is written: `digits * 10 ^ exponent`, and whether it is an integer, written with
neither a fraction nor an exponent. Of its digits there are as many as 64 bits hold. -/
structure Literal where
  negative : Bool
  decimal : Decimal
  integral : Bool
deriving DecidableEq, Repr

inductive Value
  | null
  | bool (b : Bool)
  | number (n : Literal)
  | string (s : Option String)
  | array (items : List Value)
  | object (members : List (Option String × Value))
deriving Inhabited

namespace Literal

def ofNat (n : Nat) : Literal := ⟨false, ⟨n, 0⟩, true⟩

/-- The number without its sign in double precision. -/
def doubleCode (n : Literal) : Nat := quickDouble n.decimal

/-- Whether the number is within the range of a double. -/
def isFinite (n : Literal) : Bool := n.doubleCode < doubleFormat.infinity

/-- An unsigned integer below `bound`. A negative zero is no integer. -/
def toNat? (bound : Nat) (n : Literal) : Option Nat :=
  if n.integral ∧ ¬n.negative ∧ n.decimal.digits < bound then some n.decimal.digits else none

/-- An integer of at most 64 bits, signed or unsigned. -/
def toInt? (n : Literal) : Option Int :=
  if n.negative then
    if n.integral ∧ 0 < n.decimal.digits ∧ n.decimal.digits ≤ 1 <<< 63 then some (-n.decimal.digits)
    else none
  else (n.toNat? UInt64.size).map Int.ofNat

/-- The number in single precision: an integer of at most 64 bits is rounded once, any other number
first to double precision. -/
def toSingle? (n : Literal) : Option Single :=
  match n.toInt? with
  | some i => some (Single.ofRatio i 1)
  | none =>
    if n.isFinite then
      let (num, den) := doubleFormat.ratioOfCode n.doubleCode
      some (Single.ofCode n.negative (singleFormat.codeOfRatio num den))
    else none

/-- A finite single-precision number, written with enough digits to read back in double
precision. -/
def ofSingle (x : Single) : Literal :=
  let (num, den) := singleFormat.ratioOfCode x.code
  ⟨x.isNegative, doubleFormat.shortDecimal (doubleFormat.codeOfRatio num den), false⟩

end Literal

namespace Value

def text (s : String) : Value := .string (some s)

def nat (n : Nat) : Value := .number (.ofNat n)

/-- A finite number as a JSON number, any other as null. -/
def single (x : Single) : Value := if x.isFinite then .number (.ofSingle x) else .null

/-- An object with the given members. -/
def record (members : List (String × Value)) : Value :=
  .object (members.map fun (name, value) => (some name, value))

/-- The value of the last member of that name. -/
def get? (name : String) : Value → Option Value
  | .object members => (members.reverse.find? fun m => m.1 = some name).map (·.2)
  | _ => none

def isObject : Value → Bool
  | .object _ => true
  | _ => false

def asText? : Value → Option String
  | .string s => s
  | _ => none

def asBool? : Value → Option Bool
  | .bool b => some b
  | _ => none

def asNat? (bound : Nat) : Value → Option Nat
  | .number n => n.toNat? bound
  | _ => none

def asSingle? : Value → Option Single
  | .number n => n.toSingle?
  | _ => none

def asArray? : Value → Option (List Value)
  | .array items => some items
  | _ => none

end Value

end RankedSearch.Json
