import RankedSearch.Notification

/-! What can go wrong in a call to the query service. -/

namespace RankedSearch.Service

inductive Fault
  /-- The service cannot be reached, fails, or refuses a call without which the query cannot
  go on. -/
  | unavailable (message : String)
  | notReady (query : String)
  | rejected (status : Nat) (message : String)
  | invalidResponse (message : String)
  | stream (message : String)
  | invalidConfig (message : String)
  /-- The client for the calls could not be set up. -/
  | transport
  /-- A text that should be JSON of a known form is not. -/
  | json
  | notification (fault : Notification.Fault)
deriving DecidableEq, Repr

def Fault.message : Fault → String
  | .unavailable message => "Query service unavailable: " ++ message
  | .notReady query => s!"Query {query} has no ranking yet."
  | .rejected status message =>
    s!"Query service rejected the request with status {status}: {message}"
  | .invalidResponse message => "Invalid response: " ++ message
  | .stream message => "Notification stream failed: " ++ message
  | .invalidConfig message => message
  | .transport => "request could not be built"
  | .json => "malformed JSON"
  | .notification fault => fault.message

end RankedSearch.Service
