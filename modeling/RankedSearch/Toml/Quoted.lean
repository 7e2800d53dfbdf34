import RankedSearch.Text.Hex

/-! Strings of a TOML document. Basic strings stand between quotation marks and have escapes,
literal strings stand between apostrophes and have none; both come in one line, or in many between
triple marks, where a line break right after the opening is no part of the string. A carriage return
stands nowhere but in front of a line feed, which is checked for the document as a whole. -/

namespace RankedSearch.Toml

/-- What may stand in comments and in strings of one line: no controls but the tab. -/
def isPlain (c : Char) : Bool := c = '\t' || (0x20 ≤ c.toNat && c.toNat ≠ 0x7F)

def isLineEnd (c : Char) : Bool := c = '\n' || c = '\r'

/-! ## Where a string ends -/

/-- Cuts at the first quotation mark that is not escaped. -/
def cutBasic? : List Char → Option (List Char × List Char)
  | [] => none
  | '"' :: rest => some ([], rest)
  | '\\' :: c :: rest => (cutBasic? rest).map fun (body, rest) => ('\\' :: c :: body, rest)
  | c :: rest => (cutBasic? rest).map fun (body, rest) => (c :: body, rest)

def cutLiteral? (cs : List Char) : Option (List Char × List Char) :=
  match cs.dropWhile (· ≠ '\'') with
  | _ :: rest => some (cs.takeWhile (· ≠ '\''), rest)
  | [] => none

/-- One or two marks right before the closing three belong to the string. -/
def trailing (mark : Char) (rest : List Char) : List Char × List Char :=
  ((rest.take 2).takeWhile (· = mark), rest.drop ((rest.take 2).takeWhile (· = mark)).length)

/-- Cuts at the first three marks, none of which is escaped where there are escapes. -/
def cutTriple? (mark : Char) (escapes : Bool) : List Char → Option (List Char × List Char)
  | [] => none
  | [_] => none
  | a :: b :: cs =>
    if a = '\\' ∧ escapes then
      (cutTriple? mark escapes cs).map fun (body, rest) => (a :: b :: body, rest)
    else if a = mark ∧ b = mark ∧ cs.head? = some mark then some (trailing mark cs.tail)
    else (cutTriple? mark escapes (b :: cs)).map fun (body, rest) => (a :: body, rest)

def dropLineBreak : List Char → List Char
  | '\n' :: rest => rest
  | '\r' :: '\n' :: rest => rest
  | cs => cs

/-! ## Escapes -/

inductive Escape
  | char (c : Char)
  /-- The number of digits that follow. -/
  | digits (count : Nat)

def Escape.ofChar? : Char → Option Escape
  | 'b' => some (.char '\x08')
  | 't' => some (.char '\t')
  | 'n' => some (.char '\n')
  | 'f' => some (.char '\x0c')
  | 'r' => some (.char '\r')
  | 'e' => some (.char '\x1b')
  | '"' => some (.char '"')
  | '\\' => some (.char '\\')
  | 'x' => some (.digits 2)
  | 'u' => some (.digits 4)
  | 'U' => some (.digits 8)
  | _ => none

/-- The character with a code, unless it is half of a surrogate pair or beyond the last one. -/
def charOf? (code : Nat) : Option Char := if code.isValidChar then some (Char.ofNat code) else none

/-- Where reading stands within the body of a basic string. -/
inductive Mode
  | plain
  | escape
  | digits (due code : Nat)
  /-- After a backslash that ends a line, with white space only since; `broken` once the line has
  ended. -/
  | lineEnd (broken : Bool)

/-- One more character of the body: what comes next, and the character that the string gains. -/
def Mode.push (multiline : Bool) (c : Char) : Mode → Option (Mode × Option Char)
  | .plain => plainly
  | .escape =>
    match Escape.ofChar? c with
    | some (.char c) => some (.plain, some c)
    | some (.digits count) => some (.digits count 0, none)
    | none =>
      if multiline ∧ (c = ' ' ∨ c = '\t' ∨ isLineEnd c) then some (.lineEnd (isLineEnd c), none)
      else none
  | .digits due code =>
    match Text.Hex.value? c with
    | none => none
    | some digit =>
      let code := code * 16 + digit
      if due ≤ 1 then (charOf? code).map fun c => (.plain, some c)
      else some (.digits (due - 1) code, none)
  | .lineEnd broken =>
    if c = ' ' ∨ c = '\t' then some (.lineEnd broken, none)
    else if isLineEnd c then some (.lineEnd true, none)
    else if broken then plainly
    else none
where
  plainly : Option (Mode × Option Char) :=
    if c = '\\' then some (.escape, none)
    else if isPlain c ∨ (multiline ∧ isLineEnd c) then some (.plain, some c)
    else none

/-- The characters that the body of a basic string stands for. -/
def unescape? (multiline : Bool) (mode : Mode) : List Char → Option (List Char)
  | [] =>
    match mode with
    | .plain | .lineEnd true => some []
    | _ => none
  | c :: rest =>
    match mode.push multiline c with
    | none => none
    | some (mode, gained) => (unescape? multiline mode rest).map (gained.toList ++ ·)

/-! ## Reading -/

/-- A basic string and what follows it. -/
def basic? (cs : List Char) : Option (String × List Char) := do
  let (body, rest) ← cutBasic? cs
  return (String.ofList (← unescape? false .plain body), rest)

def literal? (cs : List Char) : Option (String × List Char) := do
  let (body, rest) ← cutLiteral? cs
  if body.all isPlain then return (String.ofList body, rest) else none

def tripleBasic? (cs : List Char) : Option (String × List Char) := do
  let (body, rest) ← cutTriple? '"' true cs
  return (String.ofList (← unescape? true .plain (dropLineBreak body)), rest)

def tripleLiteral? (cs : List Char) : Option (String × List Char) := do
  let (body, rest) ← cutTriple? '\'' false cs
  if body.all fun c => isPlain c || isLineEnd c then
    return (String.ofList (dropLineBreak body), rest)
  else none

/-- A string of any of the four forms, from its opening marks on. -/
def string? : List Char → Option (String × List Char)
  | '"' :: '"' :: '"' :: rest => tripleBasic? rest
  | '\'' :: '\'' :: '\'' :: rest => tripleLiteral? rest
  | '"' :: rest => basic? rest
  | '\'' :: rest => literal? rest
  | _ => none

end RankedSearch.Toml
