import RankedSearch.Query.Id
import RankedSearch.Query.Phrase
import RankedSearch.Text.FormEncoding
import RankedSearch.Text.Quoted

/-! The route of a query's results: a path that names the query and its phrase. Reading takes the
last id that is not empty and the last phrase, in whatever order and company they come, and stops
at the first phrase that is none. -/

namespace RankedSearch.Query

open RankedSearch.Text

structure Route where
  id : Id
  phrase : Phrase
deriving DecidableEq

namespace Route

inductive Fault
  | noQuery
  | path (base : String)
  | missingId
  | missingPhrase
  | phrase (fault : Phrase.Fault)
deriving DecidableEq, Repr

def Fault.message : Fault → String
  | .noQuery => "Invalid result route: route has no query string."
  | .path base => s!"Invalid result route: unexpected path {quote base}."
  | .missingId => "Invalid result route: missing qid parameter."
  | .missingPhrase => "Invalid result route: missing q parameter."
  | .phrase fault => fault.message

def resultsPath : String := "/results"

def toPath (r : Route) : String :=
  resultsPath ++ "?" ++ FormEncoding.encode [("qid", r.id.text), ("q", r.phrase.encode)]

/-- What the parameters have given so far. -/
structure Found where
  id : Option Id := none
  phrase : Option Phrase := none

def Found.add (found : Found) (name value : String) : Except Fault Found :=
  if name = "qid" ∧ value ≠ "" then .ok { found with id := some ⟨value⟩ }
  else if name = "q" then
    match Phrase.decode value with
    | .ok phrase => .ok { found with phrase := some phrase }
    | .error fault => .error (.phrase fault)
  else .ok found

def Found.addAll (found : Found) : List (String × String) → Except Fault Found
  | [] => .ok found
  | (name, value) :: rest =>
    match found.add name value with
    | .ok found => found.addAll rest
    | .error fault => .error fault

def Found.route : Found → Except Fault Route
  | ⟨none, _⟩ => .error .missingId
  | ⟨some _, none⟩ => .error .missingPhrase
  | ⟨some id, some phrase⟩ => .ok ⟨id, phrase⟩

def ofParameters (pairs : List (String × String)) : Except Fault Route :=
  match Found.addAll {} pairs with
  | .ok found => found.route
  | .error fault => .error fault

/-- A path and the text after its first question mark, if it has one. -/
def splitQuery? (path : String) : Option (String × String) :=
  let cs := path.toList
  match cs.dropWhile (· != '?') with
  | [] => none
  | _ :: query => some (String.ofList (cs.takeWhile (· != '?')), String.ofList query)

def ofPath (path : String) : Except Fault Route :=
  match splitQuery? path with
  | none => .error .noQuery
  | some (base, query) =>
    if base = resultsPath then ofParameters (FormEncoding.decode query)
    else .error (.path base)

end Route

end RankedSearch.Query
