/-! Punycode: a label of any characters written with ASCII letters, digits and hyphens. The ASCII
characters come first as they are; after the last hyphen, numbers of variable length say where the
others belong, in the order of their codes. -/

namespace RankedSearch.Url.Punycode

/-- Where the digits of a number change their weight. -/
def threshold (place bias : Nat) : Nat :=
  if place ≤ bias then 1 else if bias + 26 ≤ place then 26 else place - bias

theorem threshold_bounds (place bias : Nat) :
    1 ≤ threshold place bias ∧ threshold place bias ≤ 26 := by
  unfold threshold
  split
  · omega
  · split <;> omega

/-- Divides `delta` until it is in range, and counts 36 for each division. -/
def shrink (delta steps : Nat) : Nat × Nat :=
  if 455 < delta then shrink (delta / 35) (steps + 36) else (delta, steps)
termination_by delta
decreasing_by omega

/-- The bias for the next number, after one of size `delta`. -/
def adapt (delta count : Nat) (first : Bool) : Nat :=
  let delta := if first then delta / 700 else delta / 2
  let (delta, steps) := shrink (delta + delta / count) 0
  steps + 36 * delta / (delta + 38)

/-! ## Writing -/

def digit (value : Nat) : Char :=
  if value < 26 then Char.ofNat (0x61 + value) else Char.ofNat (0x30 + (value - 26))

def number (bias place n : Nat) : List Char :=
  let t := threshold place bias
  if n < t then [digit n]
  else digit (t + (n - t) % (36 - t)) :: number bias (place + 36) ((n - t) / (36 - t))
termination_by n
decreasing_by
  have := threshold_bounds place bias
  have := Nat.div_le_self (n - threshold place bias) (36 - threshold place bias)
  omega

structure Writer where
  text : List Char
  delta : Nat := 0
  bias : Nat := 72
  /-- How many characters have been written. -/
  written : Nat

def isBasic (c : Char) : Bool := c.toNat < 0x80

/-- Passes one character of the label while those with code `code` are being written. -/
def Writer.pass (basic code : Nat) (w : Writer) (c : Char) : Writer :=
  if c.toNat < code then { w with delta := w.delta + 1 }
  else if c.toNat = code then
    { text := w.text ++ number w.bias 36 w.delta
      delta := 0
      bias := adapt w.delta (w.written + 1) (w.written = basic)
      written := w.written + 1 }
  else w

/-- Writes the characters whose codes are listed in order; `next` is the least code not passed. -/
def Writer.writeAll (label : List Char) (basic : Nat) : List Nat → Nat → Writer → Writer
  | [], _, w => w
  | code :: codes, next, w =>
    let w := { w with delta := w.delta + (code - next) * (w.written + 1) }
    let w := label.foldl (Writer.pass basic code) w
    writeAll label basic codes (code + 1) { w with delta := w.delta + 1 }

def encode (label : List Char) : List Char :=
  let basic := label.filter isBasic
  let codes := (((label.filter (!isBasic ·)).map Char.toNat).mergeSort).eraseDups
  let start := if basic.isEmpty then [] else basic ++ ['-']
  (Writer.writeAll label basic.length codes 0x80 { text := start, written := basic.length }).text

/-! ## Reading -/

def value? (c : Char) : Option Nat :=
  if c.isLower then some (c.toNat - 0x61)
  else if c.isUpper then some (c.toNat - 0x41)
  else if c.isDigit then some (c.toNat - 0x30 + 26)
  else none

/-- Reads a number: adds its digits to `n`, each with its weight. -/
def readNumber? (bias : Nat) : List Char → Nat → Nat → Nat → Option (Nat × List Char)
  | [], _, _, _ => none
  | c :: rest, place, weight, n =>
    match value? c with
    | none => none
    | some d =>
      let t := threshold place bias
      if d < t then some (n + d * weight, rest)
      else readNumber? bias rest (place + 36) (weight * (36 - t)) (n + d * weight)

/-- Inserts the characters that the numbers describe; each number takes a character at least. -/
def readAll? : Nat → List Char → Nat → Nat → Nat → List Char → Option (List Char)
  | 0, _, _, _, _, _ => none
  | fuel + 1, cs, code, i, bias, label =>
    if cs.isEmpty then some label
    else
      (readNumber? bias cs 36 1 i).bind fun (j, rest) =>
        let count := label.length + 1
        let code := code + j / count
        let place := j % count
        if code.isValidChar then
          readAll? fuel rest code (place + 1) (adapt (j - i) count (i = 0))
            (label.take place ++ Char.ofNat code :: label.drop place)
        else none

def decode? (text : List Char) : Option (List Char) :=
  let numbers := (text.reverse.takeWhile (· ≠ '-')).reverse
  let basic := (text.take (text.length - numbers.length)).dropLast
  readAll? (numbers.length + 1) numbers 0x80 0 72 basic

end RankedSearch.Url.Punycode
