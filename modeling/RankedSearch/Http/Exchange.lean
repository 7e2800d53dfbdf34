import RankedSearch.Http.Status

/-! Requests to a web server and what becomes of them. -/

namespace RankedSearch.Http

structure Request where
  method : String
  /-- Path and query. -/
  target : String
  contentType : Option String := none
  body : Option String := none
deriving DecidableEq, Repr

inductive Delivery
  | answered (status : Status) (body : String)
  /-- The connection failed, or ended without an answer. -/
  | unanswered
  /-- The answer broke off before its end. -/
  | cutShort
deriving DecidableEq, Repr

/-- A delivery and how many milliseconds it takes; it never comes if `none`. -/
structure Answer where
  delivery : Delivery
  delay : Option Nat := some 0
deriving DecidableEq, Repr

class Server (σ : Type) where
  receive : σ → Request → σ × Answer

/-- Where no server listens, every request goes unanswered. -/
structure Nobody

instance : Server Nobody where
  receive s _ := (s, { delivery := .unanswered })

def jsonType : String := "application/json"

end RankedSearch.Http
