import RankedSearch.Json.Fields

/-! Ranked results as the service pages them: items with their scores and marks, and the precision
figures that come with a page. Page numbers have 32 bits and counts 64. -/

namespace RankedSearch

open RankedSearch.Json RankedSearch.Number

/-- One ranked image. -/
structure Item where
  path : String
  score : Single
  /-- Marked as a result that should not have been missed. -/
  falseNegative : Bool := false
  isDistractor : Bool := false
deriving DecidableEq, Repr

structure Precision where
  at50 : Option Single
  at100 : Option Single
  distractorsAt100 : Option Single
  visited : UInt64
deriving DecidableEq, Repr

structure Page where
  items : List Item
  number : UInt32
  count : UInt32
  visited : UInt64
  precisions : List Single
  distractorPrecisions : List Single
deriving DecidableEq, Repr

/-- The figures at the fixed cutoffs; a list that is too short has none. -/
def Page.precision (p : Page) : Precision :=
  ⟨p.precisions[49]?, p.precisions[99]?, p.distractorPrecisions[99]?, p.visited⟩

/-! ## Reading -/

/-- A mark: a boolean, an integer that fits 64 signed bits and is set unless it is zero, or null for
unset. -/
def markOfJson? : Value → Option Bool
  | .bool b => some b
  | .null => some false
  | .number n =>
    match n.toInt? with
    | some i => if i.toNat < 1 <<< 63 then some (i ≠ 0) else none
    | none => none
  | _ => none

def Item.fieldNames : List String := ["path", "score", "fn", "is_distractor"]

def Item.ofJson? (v : Value) : Option Item :=
  match v.fields? fieldNames with
  | some [path, score, falseNegative, isDistractor] => do
    let path ← required Value.asText? path
    let score ← required Value.asSingle? score
    let falseNegative ← withDefault false markOfJson? falseNegative
    let isDistractor ← withDefault false markOfJson? isDistractor
    return { path, score, falseNegative, isDistractor }
  | _ => none

def pageNumberOfJson? (v : Value) : Option UInt32 := (v.asNat? UInt32.size).map UInt32.ofNat

def countOfJson? (v : Value) : Option UInt64 := (v.asNat? UInt64.size).map UInt64.ofNat

def Page.fieldNames : List String :=
  ["rlist", "page", "page_count", "visited", "prec", "prec_distr_ono"]

def Page.ofJson? (v : Value) : Option Page :=
  match v.fields? fieldNames with
  | some [items, number, count, visited, precisions, distractorPrecisions] => do
    let items ← withDefault [] (listOf Item.ofJson?) items
    let number ← required pageNumberOfJson? number
    let count ← required pageNumberOfJson? count
    let visited ← withDefault 0 countOfJson? visited
    let precisions ← withDefault [] (listOf Value.asSingle?) precisions
    let distractorPrecisions ← withDefault [] (listOf Value.asSingle?) distractorPrecisions
    return { items, number, count, visited, precisions, distractorPrecisions }
  | _ => none

/-! ## Writing -/

def Item.toJson (i : Item) : Value :=
  .record [("path", .text i.path), ("score", .single i.score), ("fn", .bool i.falseNegative),
    ("is_distractor", .bool i.isDistractor)]

def Page.toJson (p : Page) : Value :=
  .record [("rlist", .array (p.items.map Item.toJson)), ("page", .nat p.number.toNat),
    ("page_count", .nat p.count.toNat), ("visited", .nat p.visited.toNat),
    ("prec", .array (p.precisions.map .single)),
    ("prec_distr_ono", .array (p.distractorPrecisions.map .single))]

end RankedSearch
