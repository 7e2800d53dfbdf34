import RankedSearch.Query.Phrase
import RankedSearch.Ranking
import RankedSearch.Service.Fault

/-! The calls of a query's life, and what a service is to its callers: something that takes in a
call, lets the caller wait, and then concludes it. -/

namespace RankedSearch.Service

inductive Request
  /-- Allocates a query. -/
  | start
  /-- Gives the query its words. -/
  | submit (id : Query.Id) (phrase : Query.Phrase)
  | train (id : Query.Id)
  | rank (id : Query.Id)
  | page (id : Query.Id) (number : UInt32)
  | flag (id : Query.Id) (path : String) (value : Bool)
  /-- Gives the query's resources back. -/
  | release (id : Query.Id)
deriving DecidableEq

inductive CallKind
  | start | submit | train | rank | page | flag | release
deriving DecidableEq, Repr

namespace Request

def kind : Request → CallKind
  | .start => .start
  | .submit .. => .submit
  | .train _ => .train
  | .rank _ => .rank
  | .page .. => .page
  | .flag .. => .flag
  | .release _ => .release

/-- What a call that succeeds brings. -/
def Reply : Request → Type
  | .start => Query.Id
  | .page .. => Page
  | _ => Unit

/-- The query a call is about; the first one is about none yet. -/
def query? : Request → Option Query.Id
  | .start => none
  | .submit id _ | .train id | .rank id | .page id _ | .flag id _ _ | .release id => some id

/-- The call as a line of a log. -/
def line : Request → String
  | .start => "start"
  | .submit id phrase => s!"submit {id} {phrase.words}"
  | .train id => s!"train {id}"
  | .rank id => s!"rank {id}"
  | .page id number => s!"page {id} {number.toNat}"
  | .flag id path value => s!"flag {id} {path} {value}"
  | .release id => s!"release {id}"

end Request

/-- How a call ends: with a result, or by bringing its caller down. -/
inductive Conclusion (α : Type)
  | returned (result : α)
  | crashed

/-- What a service makes of a call that arrives. -/
structure Reception (σ : Type) (r : Request) where
  /-- The service with the call on record. -/
  service : σ
  /-- How many milliseconds the caller waits; forever if `none`. -/
  wait : Option Nat
  /-- What happens after the wait, given what the service has become by then. -/
  conclude : σ → σ × Conclusion (Except Fault r.Reply)

end RankedSearch.Service

namespace RankedSearch

class QueryService (σ : Type) where
  receive : σ → (r : Service.Request) → Service.Reception σ r

end RankedSearch
