import RankedSearch.Text.Hex

/-! Tables of character properties: runs of codes with a value for each, in order. A table is
written as text, one word for a run. -/

namespace RankedSearch.Text

/-- Codes from `first` to `last`, which have a value in common. -/
structure Run (α : Type) where
  first : Nat
  last : Nat
  value : α

variable {α : Type}

namespace Runs

/-! ## Reading -/

/-- The number at the start of a word, if there is one, and what follows it. -/
def code? (word : List Char) : Option Nat × List Char :=
  let isDigit := fun c => (Hex.value? c).isSome
  let digits := word.takeWhile isDigit
  (if digits.isEmpty then none else Hex.number? digits, word.dropWhile isDigit)

/-- Reads a word: the first and last code of a run in hexadecimal digits with a hyphen between them,
or its one code, or nothing if that is `next`; then what `read` understands. -/
def word? (read : List Char → Option α) (next : Nat) (word : List Char) : Option (Run α) :=
  let (first, rest) := code? word
  let first := first.getD next
  match rest with
  | '-' :: rest =>
    let (last, rest) := code? rest
    (read rest).map ({ first, last := last.getD first, value := · })
  | rest => (read rest).map ({ first, last := first, value := · })

structure Reader (α : Type) where
  runs : Array (Run α) := #[]
  /-- The word that is being read, backwards. -/
  word : List Char := []

def Reader.endWord (read : List Char → Option α) (r : Reader α) : Reader α :=
  if r.word.isEmpty then r
  else
    let next := match r.runs.back? with
      | some run => run.last + 1
      | none => 0
    match word? read next r.word.reverse with
    | some run => { runs := r.runs.push run }
    | none => { r with word := [] }

def Reader.push (read : List Char → Option α) (r : Reader α) (c : Char) : Reader α :=
  if c = ' ' ∨ c = '\n' then r.endWord read else { r with word := c :: r.word }

/-- The table of a text: words with blanks or line ends between them. -/
def ofText (read : List Char → Option α) (text : String) : Array (Run α) :=
  ((text.toList.foldl (Reader.push read) {}).endWord read).runs

/-! ## Looking up -/

/-- Looks for a code among the runs from `lo` to before `hi`. -/
def seek (runs : Array (Run α)) (code lo hi : Nat) (h : hi ≤ runs.size) : Option (Run α) :=
  if _ : lo < hi then
    let mid := lo + (hi - lo) / 2
    have : mid < runs.size := by omega
    if code < runs[mid].first then seek runs code lo mid (by omega)
    else if runs[mid].last < code then seek runs code (mid + 1) hi h
    else some runs[mid]
  else none
termination_by hi - lo

def find? (runs : Array (Run α)) (code : Nat) : Option (Run α) :=
  seek runs code 0 runs.size (Nat.le_refl _)

def value? (runs : Array (Run α)) (code : Nat) : Option α := (find? runs code).map (·.value)

end Runs

end RankedSearch.Text
