import RankedSearch.Json.Value
import RankedSearch.Text.Hex

/-! Reading JSON text by the grammar of the standard. Nothing is refused here that the grammar
allows: depth is unbounded, numbers may exceed every format and escapes may leave half of a
surrogate pair. `Value.ofText?` adds the limits of a document that is read as a whole. -/

namespace RankedSearch.Json

open RankedSearch.Number

namespace Parser

def isSpace (c : Char) : Bool := c == ' ' || c == '\t' || c == '\n' || c == '\r'

def skipSpace (cs : List Char) : List Char := cs.dropWhile isSpace

/-- The text after `word`, if it starts with it. -/
def afterWord? : List Char → List Char → Option (List Char)
  | [], cs => some cs
  | w :: word, c :: cs => if c = w then afterWord? word cs else none
  | _ :: _, [] => none

/-! ## Numbers -/

def spanDigits (cs : List Char) : List Char × List Char :=
  (cs.takeWhile Char.isDigit, cs.dropWhile Char.isDigit)

def natOf (digits : List Char) : Nat := Nat.ofDigitChars 10 digits 0

/-- Digits, of which there has to be one. -/
def someDigits? (cs : List Char) : Option (List Char × List Char) :=
  let (digits, rest) := spanDigits cs
  if digits.isEmpty then none else some (digits, rest)

/-- A zero, or digits that do not start with one. -/
def integerPart? : List Char → Option (List Char × List Char)
  | '0' :: rest => if (rest.head?.any Char.isDigit) then none else some (['0'], rest)
  | cs => someDigits? cs

/-- A point and digits, or nothing. -/
def fractionPart? : List Char → Option (Option (List Char) × List Char)
  | '.' :: rest => (someDigits? rest).map fun (digits, rest) => (some digits, rest)
  | cs => some (none, cs)

def exponentSign : List Char → Bool × List Char
  | '+' :: rest => (false, rest)
  | '-' :: rest => (true, rest)
  | cs => (false, cs)

/-- An exponent, or nothing. -/
def exponentPart? (cs : List Char) : Option (Option Int × List Char) :=
  match cs with
  | c :: rest =>
    if c = 'e' ∨ c = 'E' then
      let (negative, rest) := exponentSign rest
      (someDigits? rest).map fun (digits, rest) =>
        let n := natOf digits
        (some (if negative then -(n : Int) else n), rest)
    else some (none, cs)
  | [] => some (none, [])

/-- Appends digits to a number as long as 64 bits hold it, and counts them. -/
def gather (n : Nat) : List Char → Nat × Nat
  | [] => (n, 0)
  | c :: digits =>
    let more := n * 10 + (c.toNat - '0'.toNat)
    if more < UInt64.size then
      let (n, count) := gather more digits
      (n, count + 1)
    else (n, 0)

/-- A number after its sign. A digit that does not fit ends the digits of its part, the whole or the
fraction; in the whole it still counts as a place. -/
def magnitude? (negative : Bool) (cs : List Char) : Option (Literal × List Char) := do
  let (whole, rest) ← integerPart? cs
  let (fraction, rest) ← fractionPart? rest
  let (exponent, rest) ← exponentPart? rest
  let (n, count) := gather 0 whole
  let dropped := whole.length - count
  let (n, places) := gather n (fraction.getD [])
  let decimal : Decimal := ⟨n, exponent.getD 0 + dropped - places⟩
  return (⟨negative, decimal, fraction.isNone && exponent.isNone && dropped = 0⟩, rest)

def number? : List Char → Option (Literal × List Char)
  | '-' :: rest => magnitude? true rest
  | cs => magnitude? false cs

/-! ## Strings -/

/-- The 16-bit unit that four digits write. -/
def unit? (a b c d : Char) : Option Nat := Text.Hex.number? [a, b, c, d]

/-- What a backslash and one character stand for. -/
def shortEscape? : Char → Option Char
  | '"' => some '"'
  | '\\' => some '\\'
  | '/' => some '/'
  | 'b' => some '\x08'
  | 'f' => some '\x0c'
  | 'n' => some '\n'
  | 'r' => some '\r'
  | 't' => some '\t'
  | _ => none

def isHighSurrogate (unit : Nat) : Bool := 0xD800 ≤ unit && unit < 0xDC00
def isLowSurrogate (unit : Nat) : Bool := 0xDC00 ≤ unit && unit < 0xE000

/-- One character in front of what the rest of the string gave. -/
def addChar (c : Char) :
    Option (Option (List Char) × List Char) → Option (Option (List Char) × List Char)
  | some (chars, rest) => some (chars.map (c :: ·), rest)
  | none => none

/-- A place where the escapes give no character. -/
def spoil : Option (Option (List Char) × List Char) → Option (Option (List Char) × List Char)
  | some (_, rest) => some (none, rest)
  | none => none

/-- Reads a string after its opening quotation mark. `high` is the first half of a surrogate pair
that was just read. -/
def stringFrom? (high : Option Nat) : List Char → Option (Option (List Char) × List Char)
  | [] => none
  | '"' :: rest => some (if high.isSome then none else some [], rest)
  | '\\' :: 'u' :: a :: b :: c :: d :: rest =>
    match unit? a b c d with
    | none => none
    | some unit =>
      match high with
      | some h =>
        if isLowSurrogate unit then
          addChar (Char.ofNat (0x10000 + (h - 0xD800) * 0x400 + (unit - 0xDC00)))
            (stringFrom? none rest)
        else spoil (stringFrom? none rest)
      | none =>
        if isHighSurrogate unit then stringFrom? (some unit) rest
        else if isLowSurrogate unit then spoil (stringFrom? none rest)
        else addChar (Char.ofNat unit) (stringFrom? none rest)
  | '\\' :: c :: rest =>
    match shortEscape? c with
    | none => none
    | some c =>
      let read := addChar c (stringFrom? none rest)
      if high.isSome then spoil read else read
  | c :: rest =>
    if c.toNat < 0x20 ∨ c = '\\' then none
    else
      let read := addChar c (stringFrom? none rest)
      if high.isSome then spoil read else read

def string? (cs : List Char) : Option (Option String × List Char) :=
  (stringFrom? none cs).map fun (chars, rest) => (chars.map String.ofList, rest)

/-! ## Values -/

mutual

/-- Reads one value. Every second call at most takes no character, so twice the length of the text
is fuel enough. -/
def value? : Nat → List Char → Option (Value × List Char)
  | 0, _ => none
  | fuel + 1, cs =>
    match skipSpace cs with
    | [] => none
    | '{' :: rest =>
      match skipSpace rest with
      | '}' :: rest => some (.object [], rest)
      | rest => (members? fuel rest).map fun (members, rest) => (.object members, rest)
    | '[' :: rest =>
      match skipSpace rest with
      | ']' :: rest => some (.array [], rest)
      | rest => (items? fuel rest).map fun (items, rest) => (.array items, rest)
    | '"' :: rest => (string? rest).map fun (s, rest) => (.string s, rest)
    | 'n' :: rest => (afterWord? ['u', 'l', 'l'] rest).map fun rest => (.null, rest)
    | 't' :: rest => (afterWord? ['r', 'u', 'e'] rest).map fun rest => (.bool true, rest)
    | 'f' :: rest => (afterWord? ['a', 'l', 's', 'e'] rest).map fun rest => (.bool false, rest)
    | c :: rest => (number? (c :: rest)).map fun (n, rest) => (.number n, rest)

/-- Reads the items of an array up to its closing bracket. -/
def items? : Nat → List Char → Option (List Value × List Char)
  | 0, _ => none
  | fuel + 1, cs =>
    match value? fuel cs with
    | none => none
    | some (item, rest) =>
      match skipSpace rest with
      | ']' :: rest => some ([item], rest)
      | ',' :: rest => (items? fuel rest).map fun (items, rest) => (item :: items, rest)
      | _ => none

/-- Reads the members of an object up to its closing brace. -/
def members? : Nat → List Char → Option (List (Option String × Value) × List Char)
  | 0, _ => none
  | fuel + 1, cs =>
    match skipSpace cs with
    | '"' :: rest =>
      match string? rest with
      | none => none
      | some (name, rest) =>
        match skipSpace rest with
        | ':' :: rest =>
          match value? fuel rest with
          | none => none
          | some (value, rest) =>
            match skipSpace rest with
            | '}' :: rest => some ([(name, value)], rest)
            | ',' :: rest =>
              (members? fuel rest).map fun (members, rest) => ((name, value) :: members, rest)
            | _ => none
        | _ => none
    | _ => none

end

end Parser

/-- The value that a text writes, with nothing but white space around it. -/
def parse? (s : String) : Option Value :=
  let cs := s.toList
  match Parser.value? (2 * cs.length + 2) cs with
  | some (v, rest) => if (Parser.skipSpace rest).isEmpty then some v else none
  | none => none

/-! ## Documents -/

namespace Value

mutual

/-- Whether the value nests at most `depth` arrays and objects, and every string and number in it
can be represented. -/
def isPlain (depth : Nat) : Value → Bool
  | .null => true
  | .bool _ => true
  | .number n => n.toInt?.isSome || n.isFinite
  | .string s => s.isSome
  | .array items => match depth with
    | 0 => false
    | depth + 1 => arePlain depth items
  | .object members => match depth with
    | 0 => false
    | depth + 1 => havePlain depth members

def arePlain (depth : Nat) : List Value → Bool
  | [] => true
  | item :: items => isPlain depth item && arePlain depth items

def havePlain (depth : Nat) : List (Option String × Value) → Bool
  | [] => true
  | (name, value) :: members => name.isSome && isPlain depth value && havePlain depth members

end

/-- Keeps the last of the members that have one name. -/
def keepLast : List (Option String × Value) → List (Option String × Value)
  | [] => []
  | m :: ms => if ms.any (·.1 = m.1) then keepLast ms else m :: keepLast ms

mutual

/-- The value with repeated members settled: the last one wins. -/
def settled : Value → Value
  | .array items => .array (allSettled items)
  | .object members => .object (keepLast (membersSettled members))
  | v => v

def allSettled : List Value → List Value
  | [] => []
  | item :: items => item.settled :: allSettled items

def membersSettled : List (Option String × Value) → List (Option String × Value)
  | [] => []
  | (name, value) :: members => (name, value.settled) :: membersSettled members

end

/-- How deep a document may nest. -/
def maxDepth : Nat := 127

/-- The value of a document that is read as a whole. -/
def ofText? (s : String) : Option Value :=
  (parse? s).bind fun v => if v.isPlain maxDepth then some v.settled else none

end Value

end RankedSearch.Json
