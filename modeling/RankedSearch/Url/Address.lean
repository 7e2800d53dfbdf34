import RankedSearch.Text.Hex
import RankedSearch.Text.Pieces

/-! Network addresses as hosts. A version 4 address may have up to four parts, decimal, octal or
hexadecimal, of which the last takes up all the bits that are left; it is written as four decimal
ones. A version 6 address is written with its longest run of zeros left out. -/

namespace RankedSearch.Url.Address

open RankedSearch.Text

/-! ## Version 4 -/

/-- The value of one part. No digits at all after the mark of the base are zero. -/
def part? (text : List Char) : Option Nat :=
  let read := fun (base : Nat) (digits : List Char) =>
    if digits.all fun c => (Hex.value? c).any (· < base) then
      some (digits.foldl (fun n c => n * base + (Hex.value? c).getD 0) 0)
    else none
  match text with
  | [] => none
  | '0' :: 'x' :: digits | '0' :: 'X' :: digits => read 16 digits
  | '0' :: c :: digits => read 8 (c :: digits)
  | digits => read 10 digits

/-- Whether a host with this name has to be an address, by its last part. -/
def endsInNumber (name : List Char) : Bool :=
  let parts := (pieces '.' name).reverse
  let last := match parts with
    | [] :: rest => rest.head?
    | parts => parts.head?
  last.any fun text => (!text.isEmpty && text.all Char.isDigit) || (part? text).isSome

/-- The number that the parts of an address make up. -/
def combine? (parts : List Nat) : Option Nat :=
  match parts.reverse with
  | [] => none
  | last :: front =>
    let width := 8 * (4 - front.length)
    if front.length < 4 ∧ last < 1 <<< width ∧ front.all (· < 256) then
      some (front.reverse.foldl (fun n part => n * 256 + part) 0 <<< width + last)
    else none

def version4? (name : List Char) : Option Nat :=
  let parts := pieces '.' name
  let parts := if 1 < parts.length ∧ parts.getLast? = some [] then parts.dropLast else parts
  (parts.mapM part?).bind combine?

def decimal (n : Nat) : String := String.ofList (Nat.toDigits 10 n)

def version4Text (n : Nat) : String :=
  ".".intercalate
    ([n >>> 24 % 256, n >>> 16 % 256, n >>> 8 % 256, n % 256].map decimal)

/-! ## Version 6 -/

/-- A decimal number below 256 without superfluous zeros. -/
def octet? (text : List Char) : Option Nat :=
  let n := Nat.ofDigitChars 10 text 0
  if text.isEmpty ∨ 3 < text.length ∨ ¬text.all Char.isDigit ∨ 255 < n then none
  else if text.head? = some '0' ∧ 1 < text.length then none
  else some n

/-- The last two groups, written as a version 4 address. -/
def tail? (text : List Char) : Option (List Nat) :=
  match (pieces '.' text).mapM octet? with
  | some [a, b, c, d] => some [a * 256 + b, c * 256 + d]
  | _ => none

def group? (text : List Char) : Option Nat :=
  if text.isEmpty ∨ 4 < text.length then none else Hex.number? text

/-- The groups between colons; the last may be a version 4 address where one is admitted. -/
def groups? (admitTail : Bool) : List (List Char) → Option (List Nat)
  | [] => some []
  | [text] =>
    match group? text with
    | some n => some [n]
    | none => if admitTail then tail? text else none
  | text :: rest => do
    let n ← group? text
    return n :: (← groups? admitTail rest)

/-- The text before and after the first double colon. -/
def splitRun? : List Char → Option (List Char × List Char)
  | ':' :: ':' :: rest => some ([], rest)
  | c :: rest => (splitRun? rest).map fun (before, after) => (c :: before, after)
  | [] => none

def side? (admitTail : Bool) (text : List Char) : Option (List Nat) :=
  if text.isEmpty then some [] else groups? admitTail (pieces ':' text)

/-- The eight groups of an address; a double colon stands for one zero at least. -/
def version6? (text : List Char) : Option (List Nat) :=
  match splitRun? text with
  | some (before, after) => do
    let front ← side? false before
    let back ← side? true after
    if front.length + back.length ≤ 7 then
      return front ++ List.replicate (8 - front.length - back.length) 0 ++ back
    else none
  | none => do
    let groups ← groups? true (pieces ':' text)
    if groups.length = 8 then return groups else none

/-- How many zeros the list starts with. -/
def leadingZeros (groups : List Nat) : Nat := (groups.takeWhile (· = 0)).length

/-- Place and length of the first of the longest runs of zeros. -/
def longestRun (groups : List Nat) : Nat × Nat :=
  (List.range groups.length).foldl (fun (place, length) i =>
    let run := leadingZeros (groups.drop i)
    if length < run then (i, run) else (place, length)) (0, 0)

def groupText (groups : List Nat) : String :=
  ":".intercalate (groups.map fun n => String.ofList (Nat.toDigits 16 n))

def version6Text (groups : List Nat) : String :=
  let (place, length) := longestRun groups
  if length < 2 then groupText groups
  else groupText (groups.take place) ++ "::" ++ groupText (groups.drop (place + length))

end RankedSearch.Url.Address
