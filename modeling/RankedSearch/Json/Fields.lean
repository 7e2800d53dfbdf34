import RankedSearch.Json.Parser

/-! Records in JSON. A record has named fields in a fixed order and comes as an object, where other
members are ignored and a repeated field is refused, or as an array of the values of its first
fields. A field that is absent is told from one that is null. -/

namespace RankedSearch.Json

/-- The value of the field `name` among the members: `none` if it is repeated. -/
def fieldOf (members : List (Option String × Value)) (name : String) : Option (Option Value) :=
  match members.filter fun m => m.1 = some name with
  | [] => some none
  | [m] => some (some m.2)
  | _ => none

/-- The fields of a record, in the order of their names. A member whose name is no text is refused,
known or not. -/
def Value.fields? (names : List String) : Value → Option (List (Option Value))
  | .object members =>
    if members.all (·.1.isSome) then names.mapM (fieldOf members) else none
  | .array items =>
    if items.length ≤ names.length then
      some (items.map some ++ List.replicate (names.length - items.length) none)
    else none
  | _ => none

/-- A required field. -/
def required (decode : Value → Option α) : Option Value → Option α
  | some v => decode v
  | none => none

/-- A field with a default for its absence. -/
def withDefault (default : α) (decode : Value → Option α) : Option Value → Option α
  | some v => decode v
  | none => some default

/-- A list whose items are all read the same way. -/
def listOf (decode : Value → Option α) (v : Value) : Option (List α) :=
  v.asArray?.bind (·.mapM decode)

end RankedSearch.Json
