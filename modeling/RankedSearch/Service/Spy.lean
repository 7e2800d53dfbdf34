import RankedSearch.Service.Pages
import RankedSearch.Service.Request

/-! A query service in memory. It counts every call, serves the pages it was given with the flags it
has recorded, and fails where its switches say so. -/

namespace RankedSearch.Service

structure Spy.Switches where
  failSubmit : Bool := false
  failTraining : Bool := false
  failPages : Bool := false
  failRelease : Bool := false
  /-- Release calls are counted and never end. -/
  hangRelease : Bool := false
  failFlags : Bool := false
  /-- While it is off, there is no ranking. -/
  ranked : Bool := true
deriving DecidableEq, Repr

structure Spy where
  id : Query.Id
  pages : List (List Item) := []
  /-- How long a page takes, in milliseconds. -/
  delay : Nat := 0
  switches : Spy.Switches := {}
  starts : Nat := 0
  submits : Nat := 0
  submitted : Option String := none
  trainings : Nat := 0
  rankings : Nat := 0
  fetched : List UInt32 := []
  flagCalls : Nat := 0
  flags : Flags := []
  releases : Nat := 0
deriving Repr

namespace Spy

def offline (call : String) : Fault := .unavailable (call ++ ": service offline")

def page (s : Spy) (number : UInt32) : Except Fault Page :=
  if s.switches.failPages then .error (offline "ranking")
  else if ¬s.switches.ranked then .error (.notReady s.id.text)
  else if inRange s.pages number then .ok (flaggedPage s.pages s.flags number)
  else .error (.rejected 400 outOfRange)

/-- Counts a call that arrives. -/
def record (s : Spy) : Request → Spy
  | .start => { s with starts := s.starts + 1 }
  | .submit .. => { s with submits := s.submits + 1 }
  | .train _ => { s with trainings := s.trainings + 1 }
  | .rank _ => { s with rankings := s.rankings + 1 }
  | .page _ number => { s with fetched := s.fetched ++ [number] }
  | .flag .. => { s with flagCalls := s.flagCalls + 1 }
  | .release _ => { s with releases := s.releases + 1 }

/-- Answers a call by the switches as they are now. -/
def answer (s : Spy) : (r : Request) → Spy × Except Fault r.Reply
  | .start => (s, .ok s.id)
  | .submit _ phrase =>
    if s.switches.failSubmit then (s, .error (offline "add_trs"))
    else ({ s with submitted := some phrase.words }, .ok ())
  | .train _ => (s, if s.switches.failTraining then .error (offline "train") else .ok ())
  | .rank _ => (s, .ok ())
  | .page _ number => (s, s.page number)
  | .flag _ path value =>
    if s.switches.failFlags then (s, .error (.rejected 500 "annotation store failed"))
    else ({ s with flags := s.flags.record path value }, .ok ())
  | .release _ => (s, if s.switches.failRelease then .error (offline "free") else .ok ())

def wait (s : Spy) : Request → Option Nat
  | .page .. => some s.delay
  | .release _ => if s.switches.hangRelease then none else some 0
  | _ => some 0

instance : QueryService Spy where
  receive s r :=
    { service := s.record r
      wait := s.wait r
      conclude := fun s => let (s, result) := s.answer r; (s, .returned result) }

end Spy

end RankedSearch.Service
