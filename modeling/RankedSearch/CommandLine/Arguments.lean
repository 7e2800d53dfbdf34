/-! The arguments of the program. An option takes its value from the same word or from the next one;
a value from the next word is looked at only when something else is taken in, so that a word that
fits nowhere is blamed before it. -/

namespace RankedSearch.CommandLine

structure Arguments where
  /-- The path of the configuration. -/
  config : String
  /-- How many pages to load once the query is ranked. -/
  pages : UInt32 := 1
  /-- Mark the distractors at the end of the list as missed. -/
  tailDistractors : Bool := false
  hideFalseNegatives : Bool := false
  /-- How many seconds to wait for the first page. -/
  waitSeconds : UInt64 := 300
  query : String
deriving DecidableEq, Repr

/-- Why there are no arguments. -/
inductive Refusal
  | help
  | version
  | missingArgument
  | unknownArgument
  /-- An option has no value, or an empty one where there must be one. -/
  | missingValue
  /-- A value is no number in range. -/
  | invalidNumber
  /-- An option or a flag is given twice. -/
  | repeated
  /-- A flag has a value. -/
  | unwantedValue
deriving DecidableEq, Repr

/-- What the program calls itself. -/
def version : String := "visor-search 0.1.0"

def usage : String :=
  "Usage: visor-search [--pages <N>] [--tail-distractors] [--hide-false-negatives] " ++
    "[--wait-secs <SECS>] --config <FILE> <QUERY>"

namespace Arguments

/-- The options that take a value. -/
inductive Setting
  | config
  | pages
  | waitSeconds
deriving DecidableEq, Repr

inductive Flag
  | tailDistractors
  | hideFalseNegatives
  | help
  | version
deriving DecidableEq, Repr

def settings : List (String × Setting) :=
  [("config", .config), ("pages", .pages), ("wait-secs", .waitSeconds)]

def flags : List (String × Flag) :=
  [("tail-distractors", .tailDistractors), ("hide-false-negatives", .hideFalseNegatives),
    ("help", .help), ("version", .version)]

/-- What has been read so far. -/
structure Reading where
  config : Option String := none
  pages : Option UInt32 := none
  waitSeconds : Option UInt64 := none
  tailDistractors : Bool := false
  hideFalseNegatives : Bool := false
  query : Option String := none
  /-- An option whose value is the next word, and that word once it is there. -/
  pending : Option (Setting × Option String) := none
deriving DecidableEq, Repr

/-! ## Values -/

def natural? (bound : Nat) (digits : List Char) : Option Nat :=
  let n := Nat.ofDigitChars 10 digits 0
  if !digits.isEmpty && digits.all Char.isDigit && n < bound then some n else none

/-- A number of pages. A zero may have any sign. -/
def pagesOf? (text : String) : Option UInt32 :=
  match text.toList with
  | '-' :: digits => (natural? 1 digits).map UInt32.ofNat
  | '+' :: digits | digits => (natural? UInt32.size digits).map UInt32.ofNat

def secondsOf? (text : String) : Option UInt64 :=
  match text.toList with
  | '+' :: digits | digits => (natural? UInt64.size digits).map UInt64.ofNat

/-- Gives an option its value. -/
def Reading.assign (r : Reading) (s : Setting) (value : String) : Except Refusal Reading :=
  match s with
  | .config =>
    if r.config.isSome then .error .repeated
    else if value = "" then .error .missingValue
    else .ok { r with config := some value }
  | .pages =>
    if r.pages.isSome then .error .repeated
    else
      match pagesOf? value with
      | some n => .ok { r with pages := some n }
      | none => .error .invalidNumber
  | .waitSeconds =>
    if r.waitSeconds.isSome then .error .repeated
    else
      match secondsOf? value with
      | some n => .ok { r with waitSeconds := some n }
      | none => .error .invalidNumber

/-- Looks at the value of the option that is waiting for one. -/
def Reading.settle (r : Reading) : Except Refusal Reading :=
  match r.pending with
  | none => .ok r
  | some (_, none) => .error .missingValue
  | some (s, some value) => { r with pending := none }.assign s value

def Reading.raise (r : Reading) : Flag → Except Refusal Reading
  | .help => .error .help
  | .version => .error .version
  | .tailDistractors =>
    if r.tailDistractors then .error .repeated else .ok { r with tailDistractors := true }
  | .hideFalseNegatives =>
    if r.hideFalseNegatives then .error .repeated else .ok { r with hideFalseNegatives := true }

/-! ## Words -/

/-- An option, with its value if that stands in the same word. -/
def Reading.option (r : Reading) (s : Setting) (value : Option String) :
    Except Refusal Reading := do
  let r ← r.settle
  match value with
  | some value => r.assign s value
  | none => return { r with pending := some (s, none) }

/-- A word that starts with two hyphens. -/
def Reading.long (r : Reading) (word : List Char) : Except Refusal Reading :=
  let name := String.ofList (word.takeWhile (· ≠ '='))
  let value := match word.dropWhile (· ≠ '=') with
    | _ :: value => some (String.ofList value)
    | [] => none
  match settings.lookup name, flags.lookup name with
  | some s, _ => r.option s value
  | none, some flag =>
    if value.isSome then .error .unwantedValue else r.settle.bind (·.raise flag)
  | none, none => .error .unknownArgument

/-- A word that starts with one hyphen. -/
def Reading.short (r : Reading) : List Char → Except Refusal Reading
  | ['c'] => r.option .config none
  | 'c' :: '=' :: value | 'c' :: value => r.option .config (some (String.ofList value))
  | 'h' :: _ => r.settle.bind (·.raise .help)
  | 'V' :: _ => r.settle.bind (·.raise .version)
  | _ => .error .unknownArgument

/-- A word that is no option. -/
def Reading.positional (r : Reading) (word : String) : Except Refusal Reading :=
  if r.query.isSome then .error .unknownArgument
  else r.settle.map ({ · with query := some word })

/-- A word before any double hyphen. -/
def Reading.word (r : Reading) (word : String) : Except Refusal Reading :=
  match word.toList with
  | '-' :: '-' :: rest => r.long rest
  | '-' :: c :: rest => r.short (c :: rest)
  | _ =>
    match r.pending with
    | some (s, none) => .ok { r with pending := some (s, some word) }
    | _ => r.positional word

/-- Reads the words in order. After a double hyphen no word is an option. -/
def Reading.words (r : Reading) (literal : Bool) : List String → Except Refusal Reading
  | [] => r.settle
  | word :: rest =>
    if literal then (r.positional word).bind (·.words true rest)
    else if word = "--" then r.words true rest
    else (r.word word).bind (·.words false rest)

def Reading.finish (r : Reading) : Except Refusal Arguments :=
  match r.config, r.query with
  | some config, some query =>
    .ok
      { config, query
        pages := r.pages.getD 1
        tailDistractors := r.tailDistractors
        hideFalseNegatives := r.hideFalseNegatives
        waitSeconds := r.waitSeconds.getD 300 }
  | _, _ => .error .missingArgument

def ofWords (words : List String) : Except Refusal Arguments :=
  (Reading.words {} false words).bind Reading.finish

end Arguments

end RankedSearch.CommandLine
