import RankedSearch.Service.Request

/-! A query service that plays a script: every kind of call has a list of replies, each call takes
the next of its kind, and one that finds none is answered at once. -/

namespace RankedSearch.Service

/-- How one call is to be answered. -/
structure ScriptedReply where
  /-- Milliseconds before anything else happens. -/
  delay : Nat := 0
  hangs : Bool := false
  crashes : Bool := false
  fault : Option Fault := none
  page : Option Page := none

structure Script where
  id : Query.Id
  replies : CallKind → List ScriptedReply
  /-- The calls so far, in order. -/
  log : List Request := []

namespace Script

def setReplies (s : Script) (kind : CallKind) (replies : List ScriptedReply) : Script :=
  { s with replies := fun k => if k = kind then replies else s.replies k }

/-- What a reply says to a call. A page call whose reply has no page finds no ranking. -/
def outcome (id : Query.Id) (reply : ScriptedReply) : (r : Request) → Except Fault r.Reply
  | .start => match reply.fault with | some f => .error f | none => .ok id
  | .page .. =>
    match reply.fault, reply.page with
    | some f, _ => .error f
    | none, some page => .ok page
    | none, none => .error (.notReady id.text)
  | .submit .. | .train _ | .rank _ | .flag .. | .release _ =>
    match reply.fault with | some f => .error f | none => .ok ()

instance : QueryService Script where
  receive s r :=
    let reply := (s.replies r.kind).head?.getD {}
    { service := { s.setReplies r.kind (s.replies r.kind).tail with log := s.log ++ [r] }
      wait := if reply.hangs then none else some reply.delay
      conclude := fun s =>
        (s, if reply.crashes then .crashed else .returned (outcome s.id reply r)) }

end Script

end RankedSearch.Service
