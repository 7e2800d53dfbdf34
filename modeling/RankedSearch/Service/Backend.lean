import RankedSearch.Http.Exchange
import RankedSearch.Json.Printer
import RankedSearch.Service.Pages
import RankedSearch.Service.Request
import RankedSearch.Text.FormEncoding

/-! A web server in memory that stands in for the service. Training and ranking finish at once, and
each tells the channel about both of its stages; data collection finishes only when it is told to.
Every call is counted before anything is asked about it, and a kind of call can be made to fail. -/

namespace RankedSearch.Service

open RankedSearch.Json RankedSearch.Text

/-- A query on the server. -/
structure Hosted where
  stage : Stage := .dataCollecting
  text : Option String := none
  flags : Flags := []
deriving Repr

structure Backend where
  pages : List (List Item)
  queries : List (Query.Id × Hosted) := []
  released : List Query.Id := []
  /-- The kinds of the calls so far, the last one first. -/
  calls : List CallKind := []
  failing : List CallKind := []
  /-- How many queries have been started. -/
  allocated : Nat := 0
  /-- What the channel has carried so far. -/
  sent : List Notification := []
deriving Repr

namespace Backend

/-! ## Calls as the server takes them -/

inductive Call
  | start
  | submit (id : Query.Id) (text : String)
  | train (id : Query.Id)
  | rank (id : Query.Id)
  | page (id : Query.Id) (number : UInt32)
  | flag (id : Query.Id) (path : String) (value : Bool)
  | release (id : Query.Id)
deriving DecidableEq, Repr

def Call.kind : Call → CallKind
  | .start => .start
  | .submit .. => .submit
  | .train _ => .train
  | .rank _ => .rank
  | .page .. => .page
  | .flag .. => .flag
  | .release _ => .release

/-- Path and query of a target. -/
def splitTarget (target : String) : String × String :=
  let (path, query) := splitFirst '?' target.toList
  (String.ofList path, String.ofList query)

/-- The segments of a target's path. -/
def segmentsOf (target : String) : List String :=
  ((pieces '/' (splitTarget target).1.toList).drop 1).map String.ofList

def idOf (segment : String) : Except Http.Status Query.Id :=
  match ofUtf8? (Percent.unescape (utf8 segment)) with
  | some text => .ok ⟨text⟩
  | none => .error .badRequest

/-- Whether a content type is one of JSON. -/
def isJson (contentType : String) : Bool :=
  let essence := (trimList (contentType.toList.takeWhile (· ≠ ';'))).map Char.toLower
  essence = "application/json".toList ||
    ("application/".toList.isPrefixOf essence && "+json".toList.isSuffixOf essence)

def jsonBody (r : Http.Request) : Except Http.Status Value :=
  if r.contentType.any isJson then
    match parse? (r.body.getD "") with
    | some v => .ok v
    | none => .error .badRequest
  else .error .unsupportedMediaType

def submitOf (id : Query.Id) (body : Value) : Except Http.Status Call :=
  match (body.fields? ["q"]).bind fun
    | [q] => required Value.asText? q
    | _ => none with
  | some text => .ok (.submit id text)
  | none => .error .unprocessableEntity

/-- A mark comes as a number of eight bits, and is set unless it is zero. -/
def flagOf (id : Query.Id) (body : Value) : Except Http.Status Call :=
  match (body.fields? ["value", "path"]).bind fun
    | [value, path] => do
      let value ← required (Value.asNat? 256) value
      let path ← required Value.asText? path
      return (value, path)
    | _ => none with
  | some (value, path) => .ok (.flag id path (value ≠ 0))
  | none => .error .unprocessableEntity

/-- A number of 32 bits, as a parameter writes it. -/
def pageNumber? (text : String) : Option UInt32 :=
  let digits := match text.toList with
    | '+' :: digits => digits
    | digits => digits
  let n := Nat.ofDigitChars 10 digits 0
  if !digits.isEmpty && digits.all Char.isDigit && n < UInt32.size then some (UInt32.ofNat n)
  else none

/-- The page that a target asks for, which it has to do exactly once. -/
def pageOf (target : String) : Except Http.Status UInt32 :=
  match (FormEncoding.decode (splitTarget target).2).filter (·.1 = "page") with
  | [(_, text)] =>
    match pageNumber? text with
    | some number => .ok number
    | none => .error .badRequest
  | _ => .error .badRequest

/-- Goes on if the method is one of those that are allowed. -/
def allowing (methods : List String) (method : String) (call : Except Http.Status Call) :
    Except Http.Status Call :=
  if methods.contains method then call else .error .methodNotAllowed

/-- The call that a request makes. A request that makes none is answered with a status and does not
count. -/
def Call.ofHttp (r : Http.Request) : Except Http.Status Call :=
  match segmentsOf r.target with
  | ["api", "query", "start_query"] => allowing ["POST"] r.method (.ok .start)
  | ["api", "fns", id] =>
    if id = "" then .error .notFound
    else allowing ["POST"] r.method do flagOf (← idOf id) (← jsonBody r)
  | ["api", "query", id, action] =>
    if id = "" then .error .notFound
    else
      match action with
      | "add_trs" => allowing ["PUT", "POST"] r.method do submitOf (← idOf id) (← jsonBody r)
      | "train" => allowing ["PUT", "POST"] r.method do return .train (← idOf id)
      | "rank" => allowing ["PUT", "POST"] r.method do return .rank (← idOf id)
      | "ranking" => allowing ["GET", "HEAD"] r.method do
        return .page (← idOf id) (← pageOf r.target)
      | "free" => allowing ["PUT", "GET", "HEAD"] r.method do return .release (← idOf id)
      | _ => .error .notFound
  | _ => .error .notFound

/-- Whether a target is that of the channel. -/
def isChannel (target : String) : Bool :=
  let path := segmentsOf target
  path = ["api", "query", "notifications"] || path = ["api", "notifications"]

/-! ## What the server knows -/

def hosted? (b : Backend) (id : Query.Id) : Option Hosted := b.queries.lookup id

/-- Changes a query, if it is there. -/
def modify (b : Backend) (id : Query.Id) (f : Hosted → Hosted) : Backend :=
  { b with queries := b.queries.map fun (other, h) => (other, if other = id then f h else h) }

def notify (b : Backend) (n : Notification) : Backend := { b with sent := b.sent ++ [n] }

/-- Brings a query to a stage and tells the channel, whether the query is there or not. -/
def reach (b : Backend) (id : Query.Id) (stage : Stage) : Backend :=
  (b.modify id fun h => { h with stage }).notify ⟨id, .stage stage⟩

/-- Finishes data collection, after two images. -/
def completeCollection (b : Backend) (id : Query.Id) : Backend :=
  let b := b.notify ⟨id, .imageProcessed "trs/0.jpg"⟩
  let b := b.notify ⟨id, .imageProcessed "trs/1.jpg"⟩
  let b := b.notify ⟨id, .collectionFinished⟩
  b.reach id .dataCollectionComplete

def setFailing (b : Backend) (kind : CallKind) (failing : Bool) : Backend :=
  let others := b.failing.filter (· ≠ kind)
  { b with failing := if failing then kind :: others else others }

def callCount (b : Backend) (kind : CallKind) : Nat := b.calls.count kind

/-- The id of the `n`th query. -/
def idFor (n : Nat) : Query.Id := ⟨String.ofList ('#' :: Nat.toDigits 10 n)⟩

/-! ## Answers -/

abbrev Reply := Http.Status × Value

def accepted : Reply := (.ok, .record [("success", .bool true)])

def refused (status : Http.Status) (message : String) : Reply :=
  (status, .record [("success", .bool false), ("err_msg", .text message)])

def unknownQuery : Reply := refused .notFound "unknown query id"

/-- What a kind of call that was made to fail answers. -/
def injected : CallKind → Reply
  | .start => refused .serviceUnavailable "no free query slots"
  | .submit => refused .internalError "image search failed"
  | .train => refused .internalError "training failed"
  | .rank => refused .internalError "ranking failed"
  | .page => refused .internalError "ranking storage failed"
  | .flag => refused .internalError "annotation store failed"
  | .release => refused .internalError "free failed"

def pageReply (b : Backend) (h : Hosted) (number : UInt32) : Reply :=
  if h.stage ≠ .ranked then refused .conflict "query has not been ranked"
  else if inRange b.pages number then
    (.ok, .record [("ranking", (flaggedPage b.pages h.flags number).toJson)])
  else refused .badRequest outOfRange

/-- Does what a call asks for. -/
def carryOut (b : Backend) : Call → Backend × Reply
  | .start =>
    let id := idFor (b.allocated + 1)
    ({ b with queries := b.queries ++ [(id, {})], allocated := b.allocated + 1 },
      (.ok, .record [("success", .bool true), ("query_id", id.toJson)]))
  | .submit id text =>
    if (b.hosted? id).isSome then (b.modify id fun h => { h with text := some text }, accepted)
    else (b, unknownQuery)
  | .train id =>
    if (b.hosted? id).isSome then ((b.reach id .training).reach id .trained, accepted)
    else (b, unknownQuery)
  | .rank id =>
    if (b.hosted? id).isSome then ((b.reach id .ranking).reach id .ranked, accepted)
    else (b, unknownQuery)
  | .page id number =>
    match b.hosted? id with
    | some h => (b, b.pageReply h number)
    | none => (b, unknownQuery)
  | .flag id path value =>
    if (b.hosted? id).isSome then
      (b.modify id fun h => { h with flags := h.flags.record path value }, accepted)
    else (b, unknownQuery)
  | .release id =>
    ({ b with
        queries := b.queries.filter (·.1 ≠ id)
        released := if b.released.contains id then b.released else id :: b.released },
      accepted)

/-- Counts a call and answers it. -/
def answer (b : Backend) (call : Call) : Backend × Reply :=
  let b := { b with calls := call.kind :: b.calls }
  if b.failing.contains call.kind then (b, injected call.kind) else b.carryOut call

instance : Http.Server Backend where
  receive b r :=
    match Call.ofHttp r with
    | .ok call =>
      let (b, status, body) := b.answer call
      (b, { delivery := .answered status body.render })
    | .error status => (b, { delivery := .answered status "" })

end Backend

end RankedSearch.Service
