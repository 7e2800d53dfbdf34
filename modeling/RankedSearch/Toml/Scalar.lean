import RankedSearch.Text.Hex
import RankedSearch.Text.Pieces
import RankedSearch.Toml.Value

/-! Unquoted values of a TOML document: booleans, numbers, dates and times. Each is read from one
whole word. -/

namespace RankedSearch.Toml

open RankedSearch.Number RankedSearch.Text

/-! ## Numbers -/

/-- Digits in groups, with single underscores between them; gives the digits. -/
def grouped? (isDigit : Char → Bool) (cs : List Char) : Option (List Char) :=
  let groups := pieces '_' cs
  if groups.all fun g => !g.isEmpty && g.all isDigit then some groups.flatten else none

/-- A decimal number without superfluous zeros in front. -/
def wholeNumber? (cs : List Char) : Option (List Char) :=
  (grouped? Char.isDigit cs).bind fun digits =>
    if digits.head? = some '0' ∧ 1 < digits.length then none else some digits

def natOf (digits : List Char) : Nat := Nat.ofDigitChars 10 digits 0

/-- A number and whether a minus sign stands in front. -/
def signOf : List Char → Bool × List Char
  | '-' :: cs => (true, cs)
  | '+' :: cs => (false, cs)
  | cs => (false, cs)

/-- The value of grouped digits in a base that is a power of two. -/
def basedNumber? (base : Nat) (cs : List Char) : Option Nat :=
  let isDigit := fun c => (Hex.value? c).any (· < base)
  (grouped? isDigit cs).map fun digits =>
    digits.foldl (fun n c => n * base + (Hex.value? c).getD 0) 0

def integer? : List Char → Option Int
  | '0' :: 'x' :: cs => (basedNumber? 16 cs).map Int.ofNat
  | '0' :: 'o' :: cs => (basedNumber? 8 cs).map Int.ofNat
  | '0' :: 'b' :: cs => (basedNumber? 2 cs).map Int.ofNat
  | cs =>
    let (negative, magnitude) := signOf cs
    (wholeNumber? magnitude).map fun digits =>
      if negative then -(natOf digits : Int) else natOf digits

/-- The digits after the point, if there is one. -/
def places? (cs : List Char) : Option (List Char) :=
  match cs with
  | [] => some []
  | _ :: digits => grouped? Char.isDigit digits

/-- The number after the exponent mark, if there is one. -/
def exponent? (cs : List Char) : Option Int :=
  match cs with
  | [] => some 0
  | _ :: cs =>
    let (negative, digits) := signOf cs
    (grouped? Char.isDigit digits).map fun digits =>
      if negative then -(natOf digits : Int) else natOf digits

/-- A decimal number with a fraction, an exponent or both. -/
def decimal? (cs : List Char) : Option Decimal := do
  let isMark := fun c => c = 'e' || c = 'E'
  let mantissa := cs.takeWhile fun c => !isMark c
  let tail := cs.dropWhile fun c => !isMark c
  let whole ← wholeNumber? (mantissa.takeWhile (· ≠ '.'))
  let fraction := mantissa.dropWhile (· ≠ '.')
  let places ← places? fraction
  let exponent ← exponent? tail
  if fraction.isEmpty ∧ tail.isEmpty then none
  else return ⟨natOf (whole ++ places), exponent - places.length⟩

def fractional? (cs : List Char) : Option Fractional :=
  let (negative, magnitude) := signOf cs
  if magnitude = ['i', 'n', 'f'] then some (.infinite negative)
  else if magnitude = ['n', 'a', 'n'] then some .notANumber
  else (decimal? magnitude).map (.decimal negative)

/-! ## Dates and times -/

/-- A number of exactly `count` digits between two bounds, and what follows it. -/
def field? (count low high : Nat) (cs : List Char) : Option (Nat × List Char) :=
  let digits := cs.take count
  let n := natOf digits
  if digits.length = count ∧ digits.all Char.isDigit ∧ low ≤ n ∧ n ≤ high then
    some (n, cs.drop count)
  else none

def expect? (c : Char) : List Char → Option (List Char)
  | d :: cs => if d = c then some cs else none
  | [] => none

def daysIn (year month : Nat) : Nat :=
  if month = 2 then
    if year % 4 = 0 ∧ (year % 100 ≠ 0 ∨ year % 400 = 0) then 29 else 28
  else if [4, 6, 9, 11].contains month then 30
  else 31

/-- What follows a date. -/
def afterDate? (cs : List Char) : Option (List Char) := do
  let (year, cs) ← field? 4 0 9999 cs
  let cs ← expect? '-' cs
  let (month, cs) ← field? 2 1 12 cs
  let cs ← expect? '-' cs
  let (_, cs) ← field? 2 1 (daysIn year month) cs
  return cs

/-- What follows a fraction of a second, if there is one. -/
def afterFraction? : List Char → Option (List Char)
  | '.' :: cs => if cs.head?.any Char.isDigit then some (cs.dropWhile Char.isDigit) else none
  | cs => some cs

/-- What follows the seconds of a time, if it has seconds; a leap second counts. -/
def afterSeconds? : List Char → Option (List Char)
  | ':' :: cs => (field? 2 0 60 cs).bind fun (_, cs) => afterFraction? cs
  | cs => some cs

/-- What follows a time of the day. -/
def afterTime? (cs : List Char) : Option (List Char) := do
  let (_, cs) ← field? 2 0 23 cs
  let cs ← expect? ':' cs
  let (_, cs) ← field? 2 0 59 cs
  afterSeconds? cs

/-- What follows the hours and minutes of an offset. -/
def afterShift? (cs : List Char) : Option (List Char) := do
  let (_, cs) ← field? 2 0 23 cs
  let cs ← expect? ':' cs
  let (_, cs) ← field? 2 0 59 cs
  return cs

/-- Whether the text is the offset of a time zone, or nothing. -/
def isOffset : List Char → Bool
  | [] => true
  | [c] => c = 'Z' || c = 'z'
  | sign :: cs => (sign = '+' || sign = '-') && (afterShift? cs).any List.isEmpty

/-- Whether the text is a date without a time. -/
def isDate (cs : List Char) : Bool := (afterDate? cs).any List.isEmpty

/-- Whether the text is a date, a time of the day, or a date and a time, which alone may have an
offset. -/
def isMoment (cs : List Char) : Bool :=
  match afterDate? cs with
  | some [] => true
  | some (c :: cs) => (c = 'T' || c = 't' || c = ' ') && (afterTime? cs).any isOffset
  | none => (afterTime? cs).any List.isEmpty

/-! ## Words -/

def scalar? (word : List Char) : Option Value :=
  if word = ['t', 'r', 'u', 'e'] then some (.bool true)
  else if word = ['f', 'a', 'l', 's', 'e'] then some (.bool false)
  else
    match integer? word, fractional? word with
    | some i, _ => some (.integer i)
    | none, some x => some (.fractional x)
    | none, none => if isMoment word then some (.moment (String.ofList word)) else none

end RankedSearch.Toml
