import RankedSearch.Text.Pieces
import RankedSearch.Url.Address
import RankedSearch.Url.Basic
import RankedSearch.Url.Domain

/-! Reading addresses the way browsers do: generous with slashes, spaces and letter case, strict
with hosts and ports. There is no address to which another could be relative. -/

namespace RankedSearch.Url

open RankedSearch.Text

inductive Fault
  | relative
  | emptyHost
  | invalidPort
  | invalidVersion4
  | invalidVersion6
  /-- The host is no domain name. -/
  | invalidDomain
  /-- The host has a character that no host has. -/
  | forbiddenCharacter
  /-- What follows the scheme is no path. -/
  | pathless
deriving DecidableEq, Repr

def Fault.message : Fault → String
  | .relative => "relative URL without a base"
  | .emptyHost => "empty host"
  | .invalidPort => "invalid port number"
  | .invalidVersion4 => "invalid IPv4 address"
  | .invalidVersion6 => "invalid IPv6 address"
  | .invalidDomain => "invalid international domain name"
  | .forbiddenCharacter => "invalid domain character"
  | .pathless => "cannot-be-a-base"

namespace Parser

/-- Drops controls and spaces at both ends, and tabs and line ends anywhere. -/
def cleaned (s : String) : List Char :=
  let isEdge := fun (c : Char) => c.toNat ≤ 0x20
  let isDropped := fun c => c = '\t' || c = '\n' || c = '\r'
  (((s.toList.dropWhile isEdge).reverse.dropWhile isEdge).reverse).filter (!isDropped ·)

/-- The scheme in small letters and what follows its colon. -/
def splitScheme? (cs : List Char) : Option (String × List Char) :=
  let isSchemeChar := fun (c : Char) => c.isAlphanum || c = '+' || c = '-' || c = '.'
  match cs.dropWhile isSchemeChar with
  | ':' :: rest =>
    if cs.head?.any Char.isAlpha then
      some (String.ofList ((cs.takeWhile isSchemeChar).map Char.toLower), rest)
    else none
  | _ => none

def isSlash (kind : Kind) (c : Char) : Bool := c = '/' || (kind ≠ .other && c = '\\')

def isPathEnd (c : Char) : Bool := c = '?' || c = '#'

/-! ## Hosts -/

/-- The host of a web server. -/
def host (text : List Char) : Except Fault String :=
  match text with
  | '[' :: rest =>
    if rest.getLast? = some ']' then
      match Address.version6? rest.dropLast with
      | some groups => .ok ("[" ++ Address.version6Text groups ++ "]")
      | none => .error .invalidVersion6
    else .error .invalidVersion6
  | _ =>
    match Domain.toAscii? (String.ofList text) with
    | none => .error .invalidDomain
    | some [] => .error .emptyHost
    | some name =>
      if Address.endsInNumber name then
        match Address.version4? name with
        | some n => .ok (Address.version4Text n)
        | none => .error .invalidVersion4
      else .ok (String.ofList name)

/-- A host about which the scheme says nothing. -/
def otherHost (text : List Char) : Except Fault String :=
  match text with
  | '[' :: _ => host text
  | _ =>
    if text.any fun c => c = '\x00' || " #/:<>?@[\\]^|".toList.contains c then
      .error .forbiddenCharacter
    else .ok (Percent.encode isVisible (String.ofList text))

/-- Cuts at the first colon that stands in no brackets. -/
def splitPort (inBrackets : Bool) : List Char → List Char × Option (List Char)
  | [] => ([], none)
  | c :: rest =>
    if c = ':' ∧ ¬inBrackets then ([], some rest)
    else
      let inBrackets := c = '[' || (c ≠ ']' && inBrackets)
      let (host, port) := splitPort inBrackets rest
      (c :: host, port)

/-- The port with which `text` starts, and what follows it. Nothing does but a path, which a
backslash may open where it is no slash. -/
def port (scheme : String) (text : List Char) : Except Fault (Option Nat × List Char) :=
  let digits := text.takeWhile Char.isDigit
  let rest := text.dropWhile Char.isDigit
  let n := Nat.ofDigitChars 10 digits 0
  if rest.head?.any (· ≠ '\\') ∨ 65535 < n then .error .invalidPort
  else if digits.isEmpty ∨ usualPort? scheme = some n then .ok (none, rest)
  else .ok (some n, rest)

/-! ## Authorities -/

/-- Cuts at the last `@`. -/
def splitCredentials (cs : List Char) : Option (List Char) × List Char :=
  if cs.contains '@' then
    let host := (cs.reverse.takeWhile (· ≠ '@')).reverse
    (some (cs.take (cs.length - host.length - 1)), host)
  else (none, cs)

def credentials (cs : List Char) : String :=
  let encode := fun text => Percent.encode keptInCredentials (String.ofList text)
  let (user, password) := splitFirst ':' cs
  encode user ++ if password.isEmpty then "" else ":" ++ encode password

/-- The authority with which `cs` starts, and what follows it there; `rest` is what follows `cs`. -/
def authority (scheme : String) (cs rest : List Char) : Except Fault (Authority × List Char) := do
  let kind := kindOf scheme
  let (user, place) := splitCredentials cs
  if user = some [] ∧ place.isEmpty ∧ ¬rest.isEmpty then throw .emptyHost
  let (name, portText) := splitPort false place
  if kind = .web ∧ name.isEmpty then throw .emptyHost
  let host ← if kind = .other then otherHost name else host name
  if host.isEmpty ∧ portText.isSome then throw .emptyHost
  let (port, beyond) ← match portText with
    | some text => port scheme text
    | none => pure (none, [])
  let credentials := (user.map credentials).getD ""
  if host.isEmpty ∧ credentials ≠ "" then throw .emptyHost
  return ({ credentials, host, port }, beyond)

/-! ## Paths -/

def cutAtSlashes (kind : Kind) : List Char → List (List Char)
  | [] => [[]]
  | c :: rest =>
    let more := cutAtSlashes kind rest
    if isSlash kind c then [] :: more
    else
      match more with
      | [] => [[c]]
      | segment :: more => (c :: segment) :: more

def walkAll (kind : Kind) (segments : List String) : List (List Char) → List String
  | [] => segments
  | text :: rest =>
    let segment := Percent.encode keptInPath (String.ofList text)
    walkAll kind (walk kind segments segment rest.isEmpty) rest

/-- The segments of a path after its first slash. -/
def path (kind : Kind) (cs : List Char) : List String := walkAll kind [] (cutAtSlashes kind cs)

/-- The path that starts with a slash or, for a web server or a file, may lack one. -/
def rooted (kind : Kind) (cs : List Char) : List String :=
  match cs with
  | c :: rest => if isSlash kind c then path kind rest else path kind cs
  | [] => if kind = .other then [] else path kind []

/-! ## Whole addresses -/

/-- What follows the path: query and fragment. -/
def withTail (u : Url) (cs : List Char) : Url :=
  let queryText := cs.takeWhile (· ≠ '#')
  let encode := fun kept text => Percent.encode kept (String.ofList text)
  { u with
    query := match queryText with
      | _ :: text => some (encode (keptInQuery u.kind) text)
      | [] => none
    fragment := match cs.dropWhile (· ≠ '#') with
      | _ :: text => some (encode keptInFragment text)
      | [] => none }

/-- An address with an authority, from behind its slashes. -/
def afterSlashes (scheme : String) (cs : List Char) : Except Fault Url := do
  let kind := kindOf scheme
  let isEnd := fun c => isSlash kind c || isPathEnd c
  let rest := cs.dropWhile (!isEnd ·)
  let (authority, beyond) ← authority scheme (cs.takeWhile (!isEnd ·)) rest
  let rest := beyond ++ rest
  let segments := rooted kind (rest.takeWhile (!isPathEnd ·))
  return withTail { scheme, authority := some authority, segments } (rest.dropWhile (!isPathEnd ·))

/-- The host of a file: none where a drive stands in its place, and none for this machine. -/
def fileHost (cs : List Char) : Except Fault (String × List Char) := do
  let isEnd := fun c => isSlash .file c || isPathEnd c
  let text := cs.takeWhile (!isEnd ·)
  if text.isEmpty ∨ isDrive (String.ofList text) then return ("", cs)
  let name ← host text
  return (if name = "localhost" then "" else name, cs.dropWhile (!isEnd ·))

/-- The address of a file. No host has drives. -/
def file (cs : List Char) : Except Fault Url := do
  let isSlash := isSlash .file
  let (host, rest) ← match cs with
    | a :: b :: rest => if isSlash a && isSlash b then fileHost rest else pure ("", cs)
    | _ => pure ("", cs)
  let segments := rooted .file (rest.takeWhile (!isPathEnd ·))
  let host := if segments.head?.any isDrive then "" else host
  return withTail
    { scheme := "file", authority := some { host }, segments := settled .file segments }
    (rest.dropWhile (!isPathEnd ·))

/-- An address of a scheme of which nothing is known. -/
def other (scheme : String) (cs : List Char) : Except Fault Url :=
  match cs with
  | '/' :: '/' :: rest => afterSlashes scheme rest
  | '/' :: rest =>
    let segments := path .other (rest.takeWhile (!isPathEnd ·))
    .ok (withTail { scheme, segments } (rest.dropWhile (!isPathEnd ·)))
  | _ => .error .pathless

end Parser

/-- The address of a text. -/
def ofText (s : String) : Except Fault Url :=
  match Parser.splitScheme? (Parser.cleaned s) with
  | none => .error .relative
  | some (scheme, rest) =>
    match kindOf scheme with
    | .web => Parser.afterSlashes scheme (rest.dropWhile (Parser.isSlash .web))
    | .file => Parser.file rest
    | .other => Parser.other scheme rest

end RankedSearch.Url
