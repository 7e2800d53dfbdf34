import RankedSearch.Http.Exchange
import RankedSearch.Json.Printer
import RankedSearch.Service.Request
import RankedSearch.Text.FormEncoding
import RankedSearch.Text.Occurrence
import RankedSearch.Url.Parser

/-! The query service over the web. Every call is one request under a base URL, and every delivery
has one meaning for its call: a failure comes as a status, as a JSON object that says so whatever
the status, or as no readable answer at all. -/

namespace RankedSearch.Service

open RankedSearch.Json RankedSearch.Text

/-! ## Requests -/

/-- A base URL, which has to have a path that can be added to. -/
def baseUrl (raw : String) : Except Fault Url :=
  match Url.ofText (trim raw) with
  | .ok url => .ok url
  | .error .pathless => .error (.invalidConfig s!"Base URL {quote raw} cannot carry a path.")
  | .error fault => .error (.invalidConfig s!"Invalid base URL {quote raw}: {fault.message}.")

namespace Request

/-- The segments of the call's path under the base URL. -/
def segments : Request → List String
  | .start => ["api", "query", "start_query"]
  | .submit id _ => ["api", "query", id.text, "add_trs"]
  | .train id => ["api", "query", id.text, "train"]
  | .rank id => ["api", "query", id.text, "rank"]
  | .page id _ => ["api", "query", id.text, "ranking"]
  | .flag id _ _ => ["api", "fns", id.text]
  | .release id => ["api", "query", id.text, "free"]

def method : Request → String
  | .start | .flag .. => "POST"
  | .page .. => "GET"
  | .submit .. | .train _ | .rank _ | .release _ => "PUT"

/-- The pairs that the call adds to the query of its URL. -/
def parameters : Request → List (String × String)
  | .page _ number => [("page", String.ofList (Nat.toDigits 10 number.toNat))]
  | _ => []

def payload : Request → Option Value
  | .submit _ phrase => some (.record [("q", .text phrase.words)])
  | .flag _ path value =>
    some (.record [("path", .text path), ("value", .nat (if value then 1 else 0))])
  | _ => none

/-- The URL of the call. -/
def url (base : Url) (r : Request) : Url :=
  let url := base.extend r.segments
  match r.parameters with
  | [] => url
  | pairs =>
    let own := FormEncoding.encode pairs
    let query := match url.query with
      | none | some "" => own
      | some query => query ++ "&" ++ own
    { url with query := some query }

def toHttp (base : Url) (r : Request) : Http.Request where
  method := r.method
  target := (r.url base).target
  contentType := r.payload.map fun _ => Http.jsonType
  body := r.payload.map Value.render

end Request

/-! ## Deliveries -/

namespace CallKind

def label : CallKind → String
  | .start => "start_query"
  | .submit => "add_trs"
  | .train => "train"
  | .rank => "rank"
  | .page => "ranking"
  | .flag => "fns"
  | .release => "free"

/-- A query whose call is refused goes no further, whatever the reason. -/
def isDecisive : CallKind → Bool
  | .start | .train | .rank => true
  | _ => false

/-- Whether the answer has to be a JSON object. -/
def needsObject : CallKind → Bool
  | .start | .page => true
  | _ => false

end CallKind

/-- A body as JSON; one that is not JSON counts as a text. -/
def bodyOf (text : String) : Value :=
  if trim text = "" then .null else (Value.ofText? text).getD (.text (trim text))

/-- What an object with `success` set to false says went wrong. -/
def envelopeError? (body : Value) : Option String :=
  if (body.get? "success").bind Value.asBool? = some false then
    some (((body.get? "err_msg").bind Value.asText?).getD
      "request failed without an error message")
  else none

/-- What an answer with the status of a failure says, or else the status itself. -/
def describeFailure (body : Value) (status : Http.Status) : String :=
  match body with
  | .string (some text) => text
  | .object _ =>
    (((body.get? "err_msg").or (body.get? "message")).bind Value.asText?).getD status.text
  | _ => status.text

def failureOf? (body : Value) (status : Http.Status) : Option String :=
  match envelopeError? body with
  | some message => some message
  | none => if status.isSuccess then none else some (describeFailure body status)

/-- What an answer means for a call: the body of a success, or a fault. -/
def classify (kind : CallKind) (status : Http.Status) (text : String) : Except Fault Value :=
  let body := bodyOf text
  match failureOf? body status with
  | none =>
    if kind.needsObject ∧ ¬body.isObject then
      .error (.invalidResponse s!"{kind.label} returned a non-object body.")
    else .ok body
  | some message =>
    if status.isServerError ∨ kind.isDecisive then
      .error (.unavailable s!"{kind.label}: {message}")
    else .error (.rejected status.code message)

def receive (kind : CallKind) : Http.Delivery → Except Fault Value
  | .answered status text => classify kind status text
  | .unanswered => .error (.unavailable s!"{kind.label} request failed")
  | .cutShort => .error (.unavailable s!"{kind.label} response could not be read")

/-- Whether a message says that there is no ranking yet. -/
def reportsUnranked (message : String) : Bool :=
  let text := (lowerAscii message).toList
  occurs "not ranked".toList text || occurs "not been ranked".toList text

/-- The id in the answer to a start. -/
def startedId? (body : Value) : Option Query.Id :=
  match body.fields? ["query_id"] with
  | some [id] => required Query.Id.ofJson? id
  | _ => none

/-- The page in the answer to a page call. -/
def rankedPage? (body : Value) : Option Page :=
  match body.fields? ["ranking"] with
  | some [page] => required Page.ofJson? page
  | _ => none

/-- How a page call fails: a refusal may only mean that it came too early. -/
def pageFault (id : Query.Id) : Fault → Fault
  | .rejected status message =>
    if status = Http.Status.conflict.code ∨ reportsUnranked message then .notReady id.text
    else .rejected status message
  | fault => fault

/-- What a delivery means for its call. -/
def interpret : (r : Request) → Http.Delivery → Except Fault r.Reply
  | .start, d =>
    match receive .start d with
    | .error fault => .error fault
    | .ok body =>
      match startedId? body with
      | some id => .ok id
      | none => .error (.unavailable "start_query returned no query id")
  | .page id _, d =>
    match receive .page d with
    | .error fault => .error (pageFault id fault)
    | .ok body =>
      match rankedPage? body with
      | some page => .ok page
      | none => .error (.invalidResponse "ranking reply is malformed")
  | .submit .., d => (receive .submit d).map fun _ => ()
  | .train _, d => (receive .train d).map fun _ => ()
  | .rank _, d => (receive .rank d).map fun _ => ()
  | .flag .., d => (receive .flag d).map fun _ => ()
  | .release _, d => (receive .release d).map fun _ => ()

/-! ## A server as a service -/

structure Remote (σ : Type) where
  base : Url
  /-- How many milliseconds a request may take. -/
  timeout : Nat
  server : σ

/-- What the caller gets to see of an answer, and when. An answer that is not there in time never
comes. -/
def inTime (timeout : Nat) (a : Http.Answer) : Nat × Http.Delivery :=
  match a.delay with
  | some delay => if delay < timeout then (delay, a.delivery) else (timeout, .unanswered)
  | none => (timeout, .unanswered)

instance {σ : Type} [Http.Server σ] : QueryService (Remote σ) where
  receive s r :=
    let (server, answer) := Http.Server.receive s.server (r.toHttp s.base)
    let (wait, delivery) := inTime s.timeout answer
    { service := { s with server }
      wait := some wait
      conclude := fun s => (s, .returned (interpret r delivery)) }

end RankedSearch.Service
