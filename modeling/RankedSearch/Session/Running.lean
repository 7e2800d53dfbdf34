import RankedSearch.Service.Request
import RankedSearch.Session.Lifecycle
import RankedSearch.Session.Pager
import RankedSearch.Session.View

/-! A running session as a machine. It takes one input at a time - a notification, the passing of
the deadline, a command, the answer to one of its calls - and after each it publishes a view. A step
gives the new session and the tasks it has started; a task stands for one outstanding call, and
stays among `tasks` until its answer comes in. -/

namespace RankedSearch.Session

open RankedSearch.Service (Fault Request)

inductive Command
  | loadMore
  | mark (index : Nat)
  | markTailDistractors
deriving DecidableEq, Repr

/-- An outstanding call. -/
inductive Task
  | train
  | rank
  | fetch (requested : UInt32)
  /-- A mark on its way to the service. -/
  | flag (patch : Patch)
  /-- A mark was accepted, and the first page is read for fresh precision figures. -/
  | refresh (patch : Patch)
deriving DecidableEq, Repr

namespace Task

def request (id : Query.Id) : Task → Request
  | .train => .train id
  | .rank => .rank id
  | .fetch requested => .page id requested
  | .flag patch => .flag id patch.path true
  | .refresh _ => .page id 1

/-- Whether the task belongs to a mark. -/
def isUpdate : Task → Bool
  | .flag _ | .refresh _ => true
  | _ => false

def isFetch : Task → Bool
  | .fetch _ => true
  | _ => false

end Task

/-- The answer to an outstanding call. -/
inductive Answer
  | trained (result : Except Fault Unit)
  | ranked (result : Except Fault Unit)
  | fetched (requested : UInt32) (result : Except Fault Page)
  | flagged (patch : Patch) (result : Except Fault Unit)
  | refreshed (patch : Patch) (result : Except Fault Page)

def Answer.task : Answer → Task
  | .trained _ => .train
  | .ranked _ => .rank
  | .fetched requested _ => .fetch requested
  | .flagged patch _ => .flag patch
  | .refreshed patch _ => .refresh patch

/-- The result of a task's call as an answer. -/
def Task.answer (id : Query.Id) : (t : Task) → Except Fault (t.request id).Reply → Answer
  | .train, result => .trained result
  | .rank, result => .ranked result
  | .fetch requested, result => .fetched requested result
  | .flag patch, result => .flagged patch result
  | .refresh patch, result => .refreshed patch result

theorem Task.task_answer (id : Query.Id) (t : Task) (result : Except Fault (t.request id).Reply) :
    (t.answer id result).task = t := by
  cases t <;> rfl

inductive Input
  | notified (n : Notification)
  | channelClosed
  | deadlinePassed
  | command (c : Command)
  | answered (a : Answer)

structure Running where
  lifecycle : Lifecycle := {}
  pager : Pager := {}
  /-- Marks that the service has not answered yet. -/
  pending : Nat := 0
  tasks : List Task := []
  /-- The revision of the list that the view holds. -/
  publishedRevision : Nat := 0
  /-- The view as it was last published. -/
  view : View

namespace Running

/-- A session at its start, with nothing published but the route. -/
def init (route : Query.Route) : Running := { view := { route } }

def query (s : Running) : Query.Id := s.view.query

/-- Brings the view up to date. The list is copied only if it has changed. -/
def publish (s : Running) : Running :=
  { s with
    publishedRevision := s.pager.revision
    view :=
      { s.view with
        items := if s.pager.revision = s.publishedRevision then s.view.items else s.pager.items
        currentPage := s.pager.currentPage
        pageCount := s.pager.pageCount
        visited := s.pager.visited
        precision := s.pager.precision
        pendingUpdates := s.pending
        loadingPage := s.pager.loading } }

def begin (s : Running) (t : Task) : Running × List Task :=
  ({ s with tasks := s.tasks ++ [t] }, [t])

/-- Starts to fetch the next page, unless one is on its way or all are loaded. -/
def requestPage (s : Running) : Running × List Task :=
  match s.pager.beginFetch with
  | .ok (page, pager) => { s with pager }.begin (.fetch page)
  | .error _ => (s, [])

/-- Marks an item and starts to tell the service. -/
def startFlag (s : Running) (index : Nat) : Running × List Task :=
  match s.pager.mark index with
  | some (patch, pager) => { s with pager, pending := s.pending + 1 }.begin (.flag patch)
  | none => (s, [])

def startFlags (s : Running) : List Nat → Running × List Task
  | [] => (s, [])
  | index :: rest =>
    let (s, started) := s.startFlag index
    let (s, more) := s.startFlags rest
    (s, started ++ more)

def onTrigger (s : Running) (trigger : Trigger) : Running × List Task :=
  let (lifecycle, action) := s.lifecycle.apply trigger
  let s := { s with lifecycle, view := { s.view with stage := lifecycle.stage } }
  match action with
  | some .beginTraining =>
    { s with view := { s.view with trainingRequested := true } }.begin .train
  | some .beginRanking =>
    { s with view := { s.view with rankingRequested := true } }.begin .rank
  | some .fetchFirstPage => s.requestPage
  | none => (s, [])

def onNews (s : Running) : News → Running × List Task
  | .stage stage => s.onTrigger (.stageReported stage)
  | .imageProcessed path => ({ s with view := { s.view with lastProcessed := some path } }, [])
  | .collectionFinished => ({ s with view := { s.view with collectionFinished := true } }, [])
  | .failure message => ({ s with view := { s.view with lastError := some message } }, [])

def onCommand (s : Running) (c : Command) : Running × List Task :=
  let s := { s with view := { s.view with commandsHandled := s.view.commandsHandled + 1 } }
  match c with
  | .loadMore => s.requestPage
  | .mark index => s.startFlag index
  | .markTailDistractors => s.startFlags s.pager.tailDistractors

def noteFault (s : Running) (fault : Fault) : Running :=
  { s with view := { s.view with lastError := some fault.message } }

/-- One mark fewer is outstanding. -/
def settleFlag (s : Running) (patch : Patch) (outcome : FlagOutcome) : Running :=
  let s := { s with pager := s.pager.settle patch outcome, pending := s.pending - 1 }
  match outcome with
  | .confirmed _ => s
  | .failed fault => s.noteFault fault

/-- Takes in the answer to a task that is no longer outstanding. A mark that was accepted goes on to
read the first page, and keeps its place if that fails. -/
def onAnswer (s : Running) : Answer → Running × List Task
  | .trained (.ok _) | .ranked (.ok _) => (s, [])
  | .trained (.error fault) | .ranked (.error fault) => (s.noteFault fault, [])
  | .fetched requested (.ok page) =>
    ({ s with pager := s.pager.completeFetch requested page }, [])
  | .fetched _ (.error fault) => ({ s with pager := s.pager.abortFetch }.noteFault fault, [])
  | .flagged patch (.ok _) => s.begin (.refresh patch)
  | .flagged patch (.error fault) => (s.settleFlag patch (.failed fault), [])
  | .refreshed patch (.ok page) => (s.settleFlag patch (.confirmed (some page.precision)), [])
  | .refreshed patch (.error _) => (s.settleFlag patch (.confirmed none), [])

/-- Takes one input in. Notifications of other queries change nothing. -/
def react (s : Running) : Input → Running × List Task
  | .notified n => if n.query = s.query then s.onNews n.news else (s, [])
  | .channelClosed => (s, [])
  | .deadlinePassed => s.onTrigger .deadlinePassed
  | .command c => s.onCommand c
  | .answered a => { s with tasks := s.tasks.erase a.task }.onAnswer a

/-- Takes one input in and publishes. -/
def step (s : Running) (i : Input) : Running × List Task :=
  let (s, started) := s.react i
  (s.publish, started)

/-- Ends the session. Outstanding calls are dropped, and the last view says that it is closed. -/
def close (s : Running) : Running :=
  { s with
    lifecycle := s.lifecycle.disarm
    tasks := []
    pending := 0
    view := { s.view with closed := true } }.publish

end Running

end RankedSearch.Session
