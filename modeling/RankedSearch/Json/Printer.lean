import RankedSearch.Json.Value

/-! Writing JSON text. Only characters of ASCII appear: the others are written as escapes of their
16-bit units, and so are the controls. A number that is no integer is written as its digits and a
power of ten. -/

namespace RankedSearch.Json

namespace Printer

def hexDigit (value : Nat) : Char :=
  if value < 10 then Char.ofNat (0x30 + value) else Char.ofNat (0x61 + (value - 10))

/-- The escape of one 16-bit unit. -/
def unit (n : Nat) : List Char :=
  ['\\', 'u', hexDigit (n / 4096 % 16), hexDigit (n / 256 % 16), hexDigit (n / 16 % 16),
    hexDigit (n % 16)]

def char (c : Char) : List Char :=
  let n := c.toNat
  if c = '"' then ['\\', '"']
  else if c = '\\' then ['\\', '\\']
  else if 0x20 ≤ n ∧ n < 0x7F then [c]
  else if n < 0x10000 then unit n
  else unit (0xD800 + (n - 0x10000) / 0x400) ++ unit (0xDC00 + (n - 0x10000) % 0x400)

def string (s : String) : List Char := '"' :: (s.toList.flatMap char ++ ['"'])

def nat (n : Nat) : List Char := Nat.toDigits 10 n

def literal (n : Literal) : List Char :=
  (if n.negative then ['-'] else []) ++ nat n.decimal.digits ++
    (if n.integral then []
     else
      match n.decimal.exponent with
      | .ofNat e => 'e' :: nat e
      | .negSucc e => 'e' :: '-' :: nat (e + 1))

mutual

def value : Value → List Char
  | .null => ['n', 'u', 'l', 'l']
  | .bool true => ['t', 'r', 'u', 'e']
  | .bool false => ['f', 'a', 'l', 's', 'e']
  | .number n => literal n
  | .string s => string (s.getD "")
  | .array items => '[' :: (elements items ++ [']'])
  | .object members => '\x7b' :: (fields members ++ ['\x7d'])

def elements : List Value → List Char
  | [] => []
  | [item] => value item
  | item :: items => value item ++ ',' :: elements items

def fields : List (Option String × Value) → List Char
  | [] => []
  | [(name, v)] => string (name.getD "") ++ ':' :: value v
  | (name, v) :: members => string (name.getD "") ++ ':' :: (value v ++ ',' :: fields members)

end

end Printer

/-- The text of a value, without white space. -/
def Value.render (v : Value) : String := String.ofList (Printer.value v)

end RankedSearch.Json
