import RankedSearch.Number.Binary

/-! Values of a TOML document. Integers and fractional numbers are kept as they are written, of
whatever size; whether one can be represented is asked of those that are looked at. -/

namespace RankedSearch.Toml

open RankedSearch.Number

/-- How a table came to be, which decides what may still be added to it. -/
inductive Origin
  /-- A header of its own opened it, or it is an element of an array of tables. -/
  | header
  /-- A header of a table inside it implied it. -/
  | implied
  /-- A dotted key implied it. -/
  | dotted
  /-- It was written between braces and is complete. -/
  | complete
deriving DecidableEq, Repr

/-- A number written with a fraction or an exponent, or one of the named ones. -/
inductive Fractional
  | decimal (negative : Bool) (magnitude : Decimal)
  | infinite (negative : Bool)
  | notANumber
deriving DecidableEq, Repr

inductive Value
  | string (s : String)
  | integer (i : Int)
  | fractional (x : Fractional)
  | bool (b : Bool)
  /-- A date, a time or both, as written. -/
  | moment (text : String)
  | array (items : List Value)
  | table (origin : Origin) (entries : List (String × Value))
  /-- The tables of one array, each opened by a header. -/
  | tables (elements : List Value)
deriving Inhabited

abbrev Entries := List (String × Value)

def Entries.value? (entries : Entries) (key : String) : Option Value :=
  (entries.find? (·.1 = key)).map (·.2)

/-- Sets the value of a key, new or not. -/
def Entries.put (entries : Entries) (key : String) (v : Value) : Entries :=
  entries.filter (·.1 ≠ key) ++ [(key, v)]

/-- Whether a double can hold the number; only digits can be too many. -/
def Fractional.isRepresentable : Fractional → Bool
  | .decimal _ magnitude => doubleFormat.codeOfDecimal magnitude < doubleFormat.infinity
  | _ => true

namespace Value

mutual

/-- Whether every number in the value can be represented: integers by 128 bits with or without a
sign, the others by a double. -/
def isRepresentable : Value → Bool
  | .integer i => (-i).toNat ≤ 1 <<< 127 && i.toNat < 1 <<< 128
  | .fractional x => x.isRepresentable
  | .array items | .tables items => areRepresentable items
  | .table _ entries => haveRepresentable entries
  | .string _ | .bool _ | .moment _ => true

def areRepresentable : List Value → Bool
  | [] => true
  | v :: vs => v.isRepresentable && areRepresentable vs

def haveRepresentable : List (String × Value) → Bool
  | [] => true
  | (_, v) :: entries => v.isRepresentable && haveRepresentable entries

end

end Value

end RankedSearch.Toml
