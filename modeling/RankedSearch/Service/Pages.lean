import RankedSearch.Ranking

/-! Pages of a ranking that is given as lists of items, with marks that are kept beside it. -/

namespace RankedSearch.Service

open RankedSearch.Number

/-- The last value of each path that was flagged. -/
abbrev Flags := List (String × Bool)

def Flags.value? (flags : Flags) (path : String) : Option Bool :=
  (flags.find? (·.1 = path)).map (·.2)

def Flags.record (flags : Flags) (path : String) (value : Bool) : Flags :=
  (path, value) :: flags.filter (·.1 ≠ path)

/-- How many paths are flagged as missed, counted in 64 bits. -/
def Flags.missed (flags : Flags) : UInt64 := UInt64.ofNat (flags.countP (·.2))

theorem Flags.value?_record_self (flags : Flags) (path : String) (value : Bool) :
    (flags.record path value).value? path = some value := by
  simp [Flags.value?, Flags.record]

theorem Flags.value?_record_of_ne (flags : Flags) {path other : String} (value : Bool)
    (h : other ≠ path) : (flags.record path value).value? other = flags.value? other := by
  unfold Flags.value? Flags.record
  rw [List.find?_cons_of_neg (by simpa using h.symm), List.find?_filter]
  congr 2
  funext f
  by_cases hf : f.1 = other <;> simp [hf, h]

/-- A page of a ranking that is given as lists of items: marks come from the flags alone, and each
flagged path adds a hundredth to the precision. -/
def flaggedPage (pages : List (List Item)) (flags : Flags) (number : UInt32) : Page where
  items := (pages.getD (number.toNat - 1) []).map fun item =>
    { item with falseNegative := (flags.value? item.path).getD false }
  number := number
  count := UInt32.ofNat (max pages.length 1)
  visited := UInt64.ofNat pages.flatten.length
  precisions := List.replicate 100 ((Single.ofNat flags.missed.toNat).divNat 100)
  distractorPrecisions := List.replicate 100 Single.zero

/-- A ranking without pages has one empty page. -/
def inRange (pages : List (List Item)) (number : UInt32) : Bool :=
  number ≠ 0 && number ≤ UInt32.ofNat (max pages.length 1)

def outOfRange : String := "Tried to retrieve page outside of valid range"

/-! ## Sample data -/

/-- Three digits at least. -/
def paddedIndex (n : Nat) : String :=
  let digits := Nat.toDigits 10 n
  String.ofList (List.replicate (3 - digits.length) '0' ++ digits)

/-- Items of a page, by falling score. -/
def sampleItems (page : UInt32) (count : Nat) : List Item :=
  (List.range count).map fun index =>
    let base := (Single.ofNat page.toNat).mul (Single.ofNat 100)
    { path := s!"p{page.toNat}/{paddedIndex index}.jpg"
      score := (Single.ofNat 1).sub ((base.add (Single.ofNat index)).divNat 10000) }

def samplePage (number count : UInt32) (items : List Item) : Page where
  items := items
  number := number
  count := count
  visited := UInt64.ofNat items.length
  precisions := List.replicate 100 Single.zero
  distractorPrecisions := List.replicate 100 Single.zero

end RankedSearch.Service
