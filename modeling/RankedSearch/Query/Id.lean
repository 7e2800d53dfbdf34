import RankedSearch.Json.Value

/-! Query ids. The service chooses them and may write them as strings or as integers; an integer is
the same id as the string of its decimal digits. -/

namespace RankedSearch.Query

open RankedSearch.Json

structure Id where
  text : String
deriving DecidableEq, Repr, Inhabited

namespace Id

instance : ToString Id := ⟨Id.text⟩

def ofInt (i : Int) : Id :=
  ⟨String.ofList (if i < 0 then '-' :: Nat.toDigits 10 i.natAbs else Nat.toDigits 10 i.natAbs)⟩

/-- Reads a string, or an integer of at most 64 bits. -/
def ofJson? : Value → Option Id
  | .string (some s) => some ⟨s⟩
  | .number n => n.toInt?.map ofInt
  | _ => none

def toJson (id : Id) : Value := .text id.text

theorem ofJson?_toJson (id : Id) : ofJson? id.toJson = some id := rfl

end Id

end RankedSearch.Query
