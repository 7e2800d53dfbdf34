import RankedSearch.CommandLine.Arguments
import RankedSearch.CommandLine.Report
import RankedSearch.Config
import RankedSearch.Service.Channel
import RankedSearch.Session.Timeline

/-! One run of the program: a query is started, waited for until its first page is there, paged
through and given back, and what was found is reported. -/

namespace RankedSearch.CommandLine

open RankedSearch.Session

/-- Why a run fails. -/
inductive Fault
  | config (fault : Config.Fault)
  | phrase (fault : Query.Phrase.Fault)
  | service (fault : Service.Fault)
  | session (fault : Session.Fault)
  | notRanked (seconds : UInt64)
  /-- The session was closed while the first page was waited for. -/
  | closedEarly
  | firstPage (message : String)
  | page (number : UInt32) (message : String)
  /-- Nothing tells any more how the session goes on. -/
  | noMoreViews
deriving DecidableEq, Repr

def Fault.message : Fault → String
  | .config fault => fault.message
  | .phrase fault => fault.message
  | .service fault => fault.message
  | .session fault => fault.message
  | .notRanked seconds => s!"Query was not ranked within {seconds} seconds."
  | .closedEarly => "Session closed before the query was ranked."
  | .firstPage message => s!"First ranking page failed: {message}"
  | .page number message => s!"Loading page {number} failed: {message}"
  | .noMoreViews => "channel closed"

/-! ## Before the session -/

/-- What a run is set up with. -/
structure Plan where
  config : Config
  phrase : Query.Phrase
  base : Url

/-- Reads the configuration and the query. -/
def Plan.make (args : Arguments) (configText : Option String) : Except Fault Plan :=
  match Config.load args.config configText with
  | .error fault => .error (.config fault)
  | .ok config =>
    match Query.Phrase.ofText args.query with
    | .error fault => .error (.phrase fault)
    | .ok phrase =>
      match Service.baseUrl config.baseUrl with
      | .error fault => .error (.service fault)
      | .ok base => .ok { config, phrase, base }

def Plan.channel (p : Plan) : Url := Service.Channel.url p.base p.config.notificationsPath

def Plan.settings (p : Plan) : Settings :=
  ⟨p.config.fallback.toNat, p.config.commandBuffer.toNat⟩

/-- How long a request may take, in milliseconds. -/
def Plan.timeout (p : Plan) : Nat := p.config.timeout.toNat

/-! ## During the session -/

section

variable {σ : Type} [QueryService σ]

/-- What a view says about the first page: it is there, it cannot come any more, or nothing yet. -/
def firstPage (v : View) : Option (Except Fault Unit) :=
  if 1 ≤ v.currentPage then some (.ok ())
  else if v.closed then some (.error .closedEarly)
  else
    match v.lastError with
    | some message =>
      if v.stage = .ranked ∧ ¬v.loadingPage then some (.error (.firstPage message)) else none
    | none => none

def waitForFirstPage (t : Timeline σ) (seconds : UInt64) : Timeline σ × Except Fault Unit :=
  match t.await firstPage (some (seconds.toNat * 1000)) with
  | (t, .found result) => (t, result)
  | (t, .gone) => (t, .error .noMoreViews)
  | (t, .timedOut) => (t, .error (.notRanked seconds))

/-- Waits until all commands have been handled and nothing is in flight. -/
def catchUp (t : Timeline σ) : Timeline σ × Except Fault View :=
  match t.sync none with
  | (t, .found (.ok v)) => (t, .ok v)
  | (t, .found (.error fault)) => (t, .error (.session fault))
  | (t, .gone) => (t, .error (.session .closed))
  | (t, .timedOut) => (t, .error .noMoreViews)

/-- Loads the next page, which has to move the cursor. -/
def loadPage (t : Timeline σ) : Timeline σ × Except Fault Unit :=
  let before := t.view.currentPage
  match t.loadMore with
  | (t, .error fault) => (t, .error (.session fault))
  | (t, .ok _) =>
    match catchUp t with
    | (t, .error fault) => (t, .error fault)
    | (t, .ok v) =>
      if v.currentPage = before then
        (t, .error (.page (before + 1) (v.lastError.getD "")))
      else (t, .ok ())

/-- Loads up to `count` further pages, as long as there are any. -/
def loadPages : Nat → Timeline σ → Timeline σ × Except Fault Unit
  | 0, t => (t, .ok ())
  | count + 1, t =>
    if t.view.hasMorePages then
      match loadPage t with
      | (t, .ok _) => loadPages count t
      | failed => failed
    else (t, .ok ())

/-- Marks the distractors at the end of the list; marks that are taken back are no failure. -/
def markTail (t : Timeline σ) : Timeline σ × Except Fault Unit :=
  match t.markTailDistractors with
  | (t, .error fault) => (t, .error (.session fault))
  | (t, .ok _) =>
    match catchUp t with
    | (t, .error fault) => (t, .error fault)
    | (t, .ok _) => (t, .ok ())

/-- Does what the arguments ask of a session. -/
def drive (t : Timeline σ) (args : Arguments) : Timeline σ × Except Fault Unit :=
  match waitForFirstPage t args.waitSeconds with
  | (t, .error fault) => (t, .error fault)
  | (t, .ok _) =>
    match loadPages (args.pages.toNat - 1) t with
    | (t, .error fault) => (t, .error fault)
    | (t, .ok _) => if args.tailDistractors then markTail t else (t, .ok ())

end

/-! ## The whole run -/

/-- What a run leaves behind. -/
structure Outcome (σ : Type) where
  lines : List String
  fault : Option Fault
  service : σ
  /-- The release of the query has not concluded, and nobody waits for it. -/
  releasePending : Bool := false
  /-- The query whose release has been set off and has not begun. -/
  spawned : Option Query.Id := none
  /-- `false` if the run was brought down, so that it ends without a result. -/
  returned : Bool := true

/-- Reports on a session that has been closed. The query has been given back even if driving the
session failed. -/
def conclude {σ : Type} (route : String) (driven : Except Fault Unit)
    (closed : Timeline σ × Except Session.Fault View) (args : Arguments) : Outcome σ :=
  let (t, view) := closed
  let outcome := fun (more : List String) (fault : Option Fault) =>
    { lines := route :: more, fault, service := t.service, releasePending := t.release.isSome }
  match view, driven with
  | .error fault, _ => outcome [] (some (.session fault))
  | .ok _, .error fault => outcome [] (some fault)
  | .ok v, .ok _ => outcome (report v args.hideFalseNegatives) none

/-- Runs a session on a service that has told `news` by the time the session starts. -/
def runSession {σ : Type} [QueryService σ] (args : Arguments) (plan : Plan) (service : σ)
    (news : List Notification) (channelOpen : Bool) : Outcome σ :=
  match Timeline.start service plan.phrase plan.settings with
  | .error left =>
    { lines := [], fault := left.fault.map .service, service := left.service
      releasePending := left.spawned.isSome, spawned := left.spawned
      returned := left.fault.isSome }
  | .ok t =>
    let t := news.foldl (fun t n => (t.notify n).1) t
    let t := if channelOpen then t else t.disconnect
    let (t, driven) := drive t args
    conclude t.view.route.toPath driven (t.closeAndRelease plan.timeout) args

/-- Runs the program against a server. The channel is opened before anything is asked of the
service; it brings its news at once and stays open unless it breaks off. -/
def run {σ : Type} [Http.Server σ] (args : Arguments) (configText : Option String) (server : σ)
    (channelOpen : Bool := true) : Outcome σ :=
  match Plan.make args configText with
  | .error fault => { lines := [], fault := some fault, service := server }
  | .ok plan =>
    let (server, answer) := Http.Server.receive server (Service.Channel.request plan.channel)
    match Service.Channel.connect answer.delivery with
    | .error fault => { lines := [], fault := some (.service fault), service := server }
    | .ok news =>
      let remote : Service.Remote σ :=
        { base := plan.base, timeout := plan.timeout, server }
      let outcome := runSession args plan remote news channelOpen
      { outcome with service := outcome.service.server }

end RankedSearch.CommandLine
