import RankedSearch.Notification

/-! Event streams, `text/event-stream`. A stream is lines; each names an event, adds a line to its
data, comments or means nothing, and an empty line sends the event off if it has data. An event that
is unfinished when the stream ends is lost. -/

namespace RankedSearch.EventStream

structure Event where
  name : String
  data : String
deriving DecidableEq, Repr

/-- The lines that have ended: in a line feed, a carriage return or both. A carriage return at the
very end may still be followed by its line feed, so it ends nothing yet. -/
def linesFrom (line : List Char) : List Char → List (List Char)
  | [] => []
  | ['\r'] => []
  | '\r' :: '\n' :: rest => line.reverse :: linesFrom [] rest
  | '\r' :: rest => line.reverse :: linesFrom [] rest
  | '\n' :: rest => line.reverse :: linesFrom [] rest
  | c :: rest => linesFrom (c :: line) rest

def lines (cs : List Char) : List (List Char) := linesFrom [] cs

/-- The field and the value of a line; one space after the colon is no part of the value. -/
def field (line : List Char) : List Char × List Char :=
  let value := match line.dropWhile (· ≠ ':') with
    | _ :: ' ' :: value => value
    | _ :: value => value
    | [] => []
  (line.takeWhile (· ≠ ':'), value)

/-- An event in the making. -/
structure Draft where
  name : List Char := []
  data : List Char := []

def Draft.finish (d : Draft) : Option Event :=
  if d.data.isEmpty then none
  else
    some
      { name := if d.name.isEmpty then "message" else String.ofList d.name
        data := String.ofList d.data.dropLast }

/-- Takes in one line that is not empty. A comment is a line whose field has no name. -/
def Draft.add (d : Draft) (line : List Char) : Draft :=
  let (name, value) := field line
  if name = "event".toList then { d with name := value }
  else if name = "data".toList then { d with data := d.data ++ value ++ ['\n'] }
  else d

def assemble (d : Draft) : List (List Char) → List Event
  | [] => []
  | line :: rest =>
    if line.isEmpty then d.finish.toList ++ assemble {} rest else assemble (d.add line) rest

/-- The events of a stream, which may start with a byte order mark. -/
def events (stream : String) : List Event :=
  match stream.toList with
  | '\ufeff' :: cs => assemble {} (lines cs)
  | cs => assemble {} (lines cs)

/-- The notification of an event, if it carries one that is well formed. -/
def Event.notification? (e : Event) : Option Notification :=
  match Notification.ofEvent e.name e.data with
  | .ok n => n
  | .error _ => none

/-- The notifications among the events; those that are malformed are dropped. -/
def notifications (stream : String) : List Notification :=
  (events stream).filterMap Event.notification?

/-- An event as a stream carries it. The data of a notification is one line. -/
def render (e : Event) : String := s!"event: {e.name}\ndata: {e.data}\n\n"

end RankedSearch.EventStream
