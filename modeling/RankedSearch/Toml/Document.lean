import RankedSearch.Toml.Quoted
import RankedSearch.Toml.Scalar
import RankedSearch.Toml.Table

/-! Reading a TOML document: statements of one line each, but for arrays, tables between braces and
strings in triple marks, which may run over many. -/

namespace RankedSearch.Toml

namespace Reader

/-! ## Between values -/

def isBlank (c : Char) : Bool := c = ' ' || c = '\t'

def skipBlank (cs : List Char) : List Char := cs.dropWhile isBlank

/-- Skips white space, line ends and comments. -/
def skipLines? (inComment : Bool) : List Char → Option (List Char)
  | [] => some []
  | c :: rest =>
    if c = '\n' then skipLines? false rest
    else if inComment then if isPlain c ∨ c = '\r' then skipLines? true rest else none
    else if c = '#' then skipLines? true rest
    else if isBlank c ∨ c = '\r' then skipLines? false rest
    else some (c :: rest)

/-- What follows the end of the line, which only a comment may precede. -/
def endLine? (inComment : Bool) : List Char → Option (List Char)
  | [] => some []
  | c :: rest =>
    if c = '\n' then some rest
    else if inComment then if isPlain c ∨ c = '\r' then endLine? true rest else none
    else if c = '#' then endLine? true rest
    else if isBlank c ∨ c = '\r' then endLine? false rest
    else none

/-! ## Keys -/

def isBare (c : Char) : Bool := c.isAlphanum || c = '_' || c = '-'

/-- One key: quoted in one line, or bare. -/
def simpleKey? : List Char → Option (String × List Char)
  | '"' :: '"' :: '"' :: _ => none
  | '\'' :: '\'' :: '\'' :: _ => none
  | '"' :: rest => basic? rest
  | '\'' :: rest => literal? rest
  | cs =>
    let name := cs.takeWhile isBare
    if name.isEmpty then none else some (String.ofList name, cs.dropWhile isBare)

/-- Keys with points between them, and what follows them and the blanks behind. -/
def keys? : Nat → List Char → Option (Key × List Char)
  | 0, _ => none
  | fuel + 1, cs =>
    (simpleKey? (skipBlank cs)).bind fun (name, rest) =>
      match skipBlank rest with
      | '.' :: rest =>
        (keys? fuel rest).map fun (k, rest) => ({ k with path := name :: k.path }, rest)
      | rest => some ({ path := [], name }, rest)

/-- How many parts a dotted key may have. -/
def maxParts : Nat := 80

/-- A key. Each part takes a character at least, so the length of the text is fuel enough. -/
def key? (cs : List Char) : Option (Key × List Char) :=
  (keys? (cs.length + 1) cs).filter fun (k, _) => k.full.length ≤ maxParts

/-! ## Values -/

/-- What an unquoted value is made of. -/
def isWordChar (c : Char) : Bool :=
  !(isBlank c || isLineEnd c || ['=', ',', '[', ']', '\x7b', '\x7d', '#', '"', '\''].contains c)

/-- An unquoted value. A blank may stand between a date and a time. -/
def word (cs : List Char) : List Char × List Char :=
  let first := cs.takeWhile isWordChar
  match cs.dropWhile isWordChar with
  | ' ' :: rest =>
    if isDate first ∧ rest.head?.any Char.isDigit then
      (first ++ ' ' :: rest.takeWhile isWordChar, rest.dropWhile isWordChar)
    else (first, ' ' :: rest)
  | rest => (first, rest)

mutual

/-- Reads one value, in which arrays and tables nest at most `depth` deep. Every second call at most
takes no character, so twice the length of the text is fuel enough. -/
def value? : Nat → Nat → List Char → Option (Value × List Char)
  | 0, _, _ => none
  | fuel + 1, depth, cs =>
    match cs with
    | '[' :: rest =>
      if depth = 0 then none
      else (items? fuel (depth - 1) rest).map fun (items, rest) => (.array items, rest)
    | '\x7b' :: rest =>
      if depth = 0 then none
      else
        (assignments? fuel (depth - 1) rest).bind fun (assignments, rest) =>
          (completeTable assignments).map (·, rest)
    | '"' :: _ | '\'' :: _ => (string? cs).map fun (s, rest) => (.string s, rest)
    | _ =>
      let (token, rest) := word cs
      (scalar? token).map (·, rest)

/-- Reads the items of an array up to its closing bracket. -/
def items? : Nat → Nat → List Char → Option (List Value × List Char)
  | 0, _, _ => none
  | fuel + 1, depth, cs =>
    (skipLines? false cs).bind fun cs =>
      match cs with
      | ']' :: rest => some ([], rest)
      | cs =>
        (value? fuel depth cs).bind fun (item, rest) =>
          (skipLines? false rest).bind fun rest =>
            match rest with
            | ']' :: rest => some ([item], rest)
            | ',' :: rest =>
              (items? fuel depth rest).map fun (items, rest) => (item :: items, rest)
            | _ => none

/-- Reads the assignments of a table between braces up to the closing one. Lines may end anywhere
between its parts, but not within a dotted key. -/
def assignments? : Nat → Nat → List Char → Option (List (Key × Value) × List Char)
  | 0, _, _ => none
  | fuel + 1, depth, cs =>
    (skipLines? false cs).bind fun cs =>
      match cs with
      | '\x7d' :: rest => some ([], rest)
      | cs =>
        (key? cs).bind fun (k, rest) =>
          (skipLines? false rest).bind fun rest =>
            match rest with
            | '=' :: rest =>
              (skipLines? false rest).bind fun rest =>
                (value? fuel depth rest).bind fun (v, rest) =>
                  (skipLines? false rest).bind fun rest =>
                    match rest with
                    | '\x7d' :: rest => some ([(k, v)], rest)
                    | ',' :: rest =>
                      (assignments? fuel depth rest).map fun (more, rest) => ((k, v) :: more, rest)
                    | _ => none
            | _ => none

end

/-- How deep arrays and tables between braces may nest. -/
def maxDepth : Nat := 80

/-! ## Statements -/

/-- Reads one statement up to the end of its line. -/
def statement? (cs : List Char) : Option (Statement × List Char) :=
  match cs with
  | '[' :: '[' :: rest =>
    (key? rest).bind fun (k, rest) =>
      match rest with
      | ']' :: ']' :: rest => (endLine? false rest).map (.element k, ·)
      | _ => none
  | '[' :: rest =>
    (key? rest).bind fun (k, rest) =>
      match rest with
      | ']' :: rest => (endLine? false rest).map (.header k, ·)
      | _ => none
  | cs =>
    (key? cs).bind fun (k, rest) =>
      match rest with
      | '=' :: rest =>
        (value? (2 * rest.length + 2) maxDepth (skipBlank rest)).bind fun (v, rest) =>
          (endLine? false rest).map (.entry k v, ·)
      | _ => none

/-- Reads all statements; each takes a character at least. -/
def statements? : Nat → List Char → Option (List Statement)
  | 0, _ => none
  | fuel + 1, cs =>
    (skipLines? false cs).bind fun cs =>
      if cs.isEmpty then some []
      else (statement? cs).bind fun (s, rest) => (statements? fuel rest).map (s :: ·)

/-- Whether every carriage return stands in front of a line feed. -/
def returnsPaired : List Char → Bool
  | [] => true
  | '\r' :: '\n' :: rest => returnsPaired rest
  | c :: rest => c ≠ '\r' && returnsPaired rest

end Reader

/-- The root table of a document, which may start with a byte order mark. -/
def ofText? (s : String) : Option Value :=
  let cs := match s.toList with
    | '\ufeff' :: cs => cs
    | cs => cs
  if Reader.returnsPaired cs then (Reader.statements? (cs.length + 1) cs).bind ofStatements
  else none

end RankedSearch.Toml
