import RankedSearch.Text.Percent

/-! Addresses on the web: scheme, authority, path, query and fragment, each in the form in which it
is written, with its escapes. The path is a list of segments. An empty list is no path at all, and
one empty segment is a single slash. -/

namespace RankedSearch

open RankedSearch.Text

structure Url.Authority where
  /-- User and password with a colon between them; none is written where it is empty. -/
  credentials : String := ""
  host : String
  /-- Only if it is not the usual one. -/
  port : Option Nat := none
deriving DecidableEq, Repr

structure Url where
  scheme : String
  authority : Option Url.Authority := none
  segments : List String
  query : Option String := none
  fragment : Option String := none
deriving DecidableEq, Repr

namespace Url

/-- Schemes fall into those of web servers, that of files, and all others. -/
inductive Kind
  | web
  | file
  | other
deriving DecidableEq, Repr

def usualPorts : List (String × Nat) :=
  [("http", 80), ("https", 443), ("ws", 80), ("wss", 443), ("ftp", 21)]

def usualPort? (scheme : String) : Option Nat := usualPorts.lookup scheme

def kindOf (scheme : String) : Kind :=
  if scheme = "file" then .file else if (usualPort? scheme).isSome then .web else .other

def kind (u : Url) : Kind := kindOf u.scheme

/-! ## Characters that stand for themselves -/

/-- No control, and of ASCII. -/
def isVisible (b : UInt8) : Bool := 0x20 ≤ b.toNat && b.toNat < 0x7F

def isVisibleExcept (others : String) (b : UInt8) : Bool :=
  isVisible b && !others.toList.contains (asciiChar b)

def keptInFragment : UInt8 → Bool := isVisibleExcept " \"<>`"
def keptInPath : UInt8 → Bool := isVisibleExcept " \"<>`#?\x7b\x7d"
def keptInCredentials : UInt8 → Bool := isVisibleExcept " \"<>`#?\x7b\x7d/:;=@[\\]^|"

def keptInQuery : Kind → UInt8 → Bool
  | .other => isVisibleExcept " \"#<>"
  | _ => isVisibleExcept " \"#<>'"

/-- In a segment that is added as a whole, slashes and percent signs are characters like others. -/
def keptInSegment : Kind → UInt8 → Bool
  | .other => isVisibleExcept " \"<>`#?\x7b\x7d/%"
  | _ => isVisibleExcept " \"<>`#?\x7b\x7d/%\\"

/-! ## Writing -/

def Authority.render (a : Authority) : String :=
  (if a.credentials = "" then "" else a.credentials ++ "@") ++ a.host ++
    match a.port with
    | some port => ":" ++ String.ofList (Nat.toDigits 10 port)
    | none => ""

def path (u : Url) : String := String.join (u.segments.map ("/" ++ ·))

/-- What stands between scheme and path. Without an authority, a path must not look like one. -/
def middle (u : Url) : String :=
  match u.authority with
  | some a => "//" ++ a.render
  | none => if u.segments.head? = some "" ∧ 1 < u.segments.length then "/." else ""

/-- The part that a request is for: path and query. -/
def target (u : Url) : String :=
  u.path ++ match u.query with | some query => "?" ++ query | none => ""

def render (u : Url) : String :=
  u.scheme ++ ":" ++ u.middle ++ u.target ++
    match u.fragment with | some fragment => "#" ++ fragment | none => ""

/-! ## Segments -/

/-- A drive of a file system, such as `C:`. A bar may stand for its colon. -/
def isDrive (segment : String) : Bool :=
  match segment.toList with
  | [letter, mark] => letter.isAlpha && (mark = ':' || mark = '|')
  | _ => false

/-- A drive with its colon. -/
def drive (segment : String) : String := String.ofList (segment.toList.take 1 ++ [':'])

/-- Leaves the last segment, but no drive. -/
def shortened (segments : List String) : List String :=
  if segments.getLast?.any isDrive then segments else segments.dropLast

def isSingleDot (segment : String) : Bool := [".", "%2e", "%2E"].contains segment

def isDoubleDot (segment : String) : Bool :=
  ["..", ".%2e", ".%2E", "%2e.", "%2E.", "%2e%2e", "%2e%2E", "%2E%2e", "%2E%2E"].contains segment

/-- Goes on by one segment as it is written: two points lead back, one leads nowhere. At the end of
a path both leave an empty segment. The path of a file may start with a drive. -/
def walk (kind : Kind) (segments : List String) (segment : String) (last : Bool) : List String :=
  if isDoubleDot segment then shortened segments ++ if last then [""] else []
  else if isSingleDot segment then segments ++ if last then [""] else []
  else if kind = .file ∧ segments.isEmpty ∧ isDrive segment then [drive segment]
  else segments ++ [segment]

/-- The path of a file does not start with empty segments, unless it has no others. -/
def settled (kind : Kind) (segments : List String) : List String :=
  if kind = .file then
    match segments.dropWhile (·.isEmpty) with
    | [] => [""]
    | segments => segments
  else segments

/-- Adds a segment. A text of points alone is no segment and is left out; tabs and line ends are
dropped from the others, and what they hid may be points. A single slash is replaced. -/
def push (u : Url) (segment : String) : Url :=
  if segment = "." ∨ segment = ".." then u
  else
    let isDropped := fun c => c = '\t' || c = '\n' || c = '\r'
    let text := String.ofList (segment.toList.filter (!isDropped ·))
    let front := if u.segments = [""] then [] else u.segments
    { u with
      segments :=
        settled u.kind (walk u.kind front (Percent.encode (keptInSegment u.kind) text) true) }

/-- Adds segments to the path, of which an empty last segment is dropped first. -/
def extend (u : Url) (segments : List String) : Url :=
  let front :=
    if 1 < u.segments.length ∧ u.segments.getLast? = some "" then u.segments.dropLast
    else u.segments
  segments.foldl push { u with segments := front }

end Url

end RankedSearch
