import RankedSearch.Session.Running

/-! A session on a clock, together with its service and its user. Time stands in milliseconds and
moves only when somebody waits. The user acts first at each instant: the session runs when the user
has to wait for something, and then does everything that can be done by that instant. Waiting input
is taken in a fixed order - notifications, the deadline, commands, answers - and calls that start
together run in the order they were started, each up to its next wait. -/

namespace RankedSearch.Session

open RankedSearch.Service (Conclusion Request)

/-- Why the user of a session is refused. -/
inductive Fault
  | service (fault : Service.Fault)
  | closed
  | notRanked (query : Query.Id)
  /-- The session did not end but was brought down by a call. -/
  | broken
deriving DecidableEq, Repr

def Fault.message : Fault → String
  | .service fault => fault.message
  | .closed => "Session is closed."
  | .notRanked query => s!"Query {query} is not ranked yet."
  | .broken => "Session was brought down."

structure Settings where
  /-- How long after its start a query may collect data before training is asked for. -/
  fallback : Nat
  /-- How long the queue of commands is to be. -/
  commandBuffer : Nat
deriving DecidableEq, Repr

/-- How many commands may wait. There is room for one at least. -/
def Settings.capacity (settings : Settings) : Nat := max settings.commandBuffer 1

/-- The longest queue that can be made. -/
def Settings.maxBuffer : Nat := (1 <<< 61) - 1

inductive Status
  | running (s : Running)
  /-- A call brought the session down. -/
  | crashed
  | ended

/-- A call that is waiting to conclude. -/
structure Call (σ α : Type) where
  /-- When it concludes; never if `none`. -/
  due : Option Nat
  finish : σ → σ × Conclusion α

structure Timeline (σ : Type) where
  now : Nat := 0
  service : σ
  status : Status
  /-- The view as it was last published. -/
  view : View
  /-- When data collection has taken too long. -/
  deadline : Nat
  calls : List (Call σ Answer) := []
  /-- Notifications that were sent and not taken in. -/
  inbox : List Notification := []
  /-- Somebody can still send notifications. -/
  channelOpen : Bool := true
  queue : List Command := []
  capacity : Nat
  /-- Commands that were accepted. -/
  sent : Nat := 0
  /-- The user has let go of the session. -/
  closing : Bool := false
  /-- The release call, from the end of the session until it concludes. -/
  release : Option (Call σ (Except Service.Fault Unit)) := none

namespace Timeline

variable {σ : Type}

/-! ## Within one instant -/

def feed (t : Timeline σ) (i : Input) : Timeline σ × List Task :=
  match t.status with
  | .running s =>
    let (s, started) := s.step i
    ({ t with status := .running s, view := s.view }, started)
  | _ => (t, [])

def feedAll (t : Timeline σ) : List Input → Timeline σ × List Task
  | [] => (t, [])
  | i :: rest =>
    let (t, started) := t.feed i
    let (t, more) := t.feedAll rest
    (t, started ++ more)

/-- Concludes a call of the session. -/
def conclude (t : Timeline σ) (finish : σ → σ × Conclusion Answer) : Timeline σ × List Task :=
  match t.status with
  | .running _ =>
    let (service, conclusion) := finish t.service
    match conclusion with
    | .returned answer => { t with service }.feed (.answered answer)
    | .crashed =>
      ({ t with service, status := .crashed, calls := [], queue := [], inbox := [] }, [])
  | _ => (t, [])

/-- The result of a task's call, as the session takes it in. -/
def answerOf (id : Query.Id) (task : Task) :
    Conclusion (Except Service.Fault (task.request id).Reply) → Conclusion Answer
  | .returned result => .returned (task.answer id result)
  | .crashed => .crashed

variable [QueryService σ]

/-- Makes the call of a task that has been started. -/
def launch (t : Timeline σ) (task : Task) : Timeline σ × List Task :=
  match t.status with
  | .running s =>
    let reception := QueryService.receive t.service (task.request s.query)
    let t := { t with service := reception.service }
    let finish := fun service =>
      let (service, conclusion) := reception.conclude service
      (service, answerOf s.query task conclusion)
    if reception.wait = some 0 then t.conclude finish
    else ({ t with calls := t.calls ++ [⟨reception.wait.map (t.now + ·), finish⟩] }, [])
  | _ => (t, [])

/-- How many calls a task makes, one after the other. -/
def taskWeight : Task → Nat
  | .flag _ => 2
  | _ => 1

def launchFrom : Nat → Timeline σ → List Task → Timeline σ
  | 0, t, _ => t
  | _, t, [] => t
  | fuel + 1, t, task :: rest =>
    let (t, more) := t.launch task
    launchFrom fuel t (more ++ rest)

def launchAll (t : Timeline σ) (tasks : List Task) : Timeline σ :=
  launchFrom (tasks.foldr (taskWeight · + ·) 0) t tasks

/-- Whether the deadline has come and still matters. -/
def deadlineDue (t : Timeline σ) : Bool :=
  match t.status with
  | .running s => s.lifecycle.timerArmed && t.deadline ≤ t.now
  | _ => false

/-- Ends the session and calls for its release. -/
def shutDown (t : Timeline σ) : Timeline σ :=
  match t.status with
  | .running s =>
    let s := s.close
    let reception := QueryService.receive t.service (.release s.query)
    let t :=
      { t with
        service := reception.service, status := .ended, view := s.view, calls := [], queue := [],
        inbox := [] }
    if reception.wait = some 0 then { t with service := (reception.conclude t.service).1 }
    else { t with release := some ⟨reception.wait.map (t.now + ·), reception.conclude⟩ }
  | _ => t

/-- Takes in all that has been sent, and makes the calls that follow from it. -/
def takeIn (t : Timeline σ) : Timeline σ :=
  let inputs := t.inbox.map .notified
  let commands := t.queue.map .command
  let (t, started) := { t with inbox := [], queue := [] }.feedAll inputs
  let (t, trained) := if t.deadlineDue then t.feed .deadlinePassed else (t, [])
  let (t, commanded) := t.feedAll commands
  let t := t.launchAll (started ++ trained ++ commanded)
  if t.closing then t.shutDown else t

/-! ## Time -/

/-- Concludes the calls that are due, in the order in which they were made. -/
def concludeDue (t : Timeline σ) : Timeline σ :=
  let isDue := fun (c : Call σ Answer) => c.due.any (· ≤ t.now)
  let due := t.calls.filter isDue
  let t := { t with calls := t.calls.filter (!isDue ·) }
  due.foldl (fun t c => let (t, more) := t.conclude c.finish; t.launchAll more) t

def concludeRelease (t : Timeline σ) : Timeline σ :=
  match t.release with
  | some c =>
    if c.due.any (· ≤ t.now) then { t with service := (c.finish t.service).1, release := none }
    else t
  | none => t

omit [QueryService σ] in
theorem concludeRelease_of_none {t : Timeline σ} (h : t.release = none) :
    t.concludeRelease = t := by
  unfold concludeRelease
  rw [h]

omit [QueryService σ] in
theorem concludeRelease_of_due {t : Timeline σ} {c : Call σ (Except Service.Fault Unit)}
    (h : t.release = some c) (hdue : c.due.any (· ≤ t.now) = true) :
    t.concludeRelease = { t with service := (c.finish t.service).1, release := none } := by
  unfold concludeRelease
  rw [h]
  exact if_pos hdue

omit [QueryService σ] in
theorem concludeRelease_of_late {t : Timeline σ} {c : Call σ (Except Service.Fault Unit)}
    (h : t.release = some c) (hlate : c.due.any (· ≤ t.now) = false) : t.concludeRelease = t := by
  unfold concludeRelease
  rw [h]
  exact if_neg (Bool.eq_false_iff.mp hlate)

/-- When something happens next of which it is already known. -/
def nextDue (t : Timeline σ) : Option Nat :=
  let armed := match t.status with
    | .running s => if s.lifecycle.timerArmed then [t.deadline] else []
    | _ => []
  let release := (t.release.bind (·.due)).toList
  (armed ++ t.calls.filterMap (·.due) ++ release).min?

/-- Lets the session do everything that can be done by now. -/
def settle (t : Timeline σ) : Timeline σ := t.takeIn.concludeDue.concludeRelease

/-- Moves the clock, without letting anything happen. -/
def setClock (t : Timeline σ) (instant : Nat) : Timeline σ := { t with now := max t.now instant }

def moveTo (t : Timeline σ) (instant : Nat) : Timeline σ := (t.setClock instant).settle

/-- More instants than can matter before the user acts again: the deadline, the training call it may
bring, the release, and two calls for each that is outstanding. -/
def instants (t : Timeline σ) : Nat := 2 * t.calls.length + 4

/-- Lets everything happen that comes before `last`, to which the clock moves. -/
def passFrom : Nat → Timeline σ → Nat → Timeline σ
  | 0, t, last => t.setClock last
  | fuel + 1, t, last =>
    match t.nextDue with
    | some instant =>
      if instant < last then passFrom fuel (t.moveTo instant) last else t.setClock last
    | none => t.setClock last

/-- Lets some time pass. Who waits no time at all lets nothing happen. -/
def pass (t : Timeline σ) (milliseconds : Nat) : Timeline σ :=
  if milliseconds = 0 then t
  else
    let t := t.settle
    passFrom t.instants t (t.now + milliseconds)

/-! ## Waiting for a view -/

inductive Awaited (β : Type)
  | found (value : β)
  /-- The session broke down, so that no view will follow. -/
  | gone
  | timedOut

/-- What a look at the last published view tells: something was found, or nothing will be. -/
def glance {β : Type} (look : View → Option β) (t : Timeline σ) : Option (Awaited β) :=
  match look t.view with
  | some value => some (.found value)
  | none =>
    match t.status with
    | .crashed => some .gone
    | _ => none

def awaitFrom {β : Type} (look : View → Option β) :
    Nat → Timeline σ → Option Nat → Timeline σ × Awaited β
  | fuel, t, last =>
    match glance look t with
    | some outcome => (t, outcome)
    | none =>
      let expired := (match last with | some last => t.setClock last | none => t, .timedOut)
      match fuel, t.nextDue with
      | fuel + 1, some instant =>
        if last.all (instant < ·) then awaitFrom look fuel (t.moveTo instant) last else expired
      | _, _ => expired

/-- Waits for a view in which `look` finds something, for a limited time or without a limit, until
nothing more can happen. The view as it stands is looked at before the session runs, and at the
limit itself the wait is over before anything else happens. -/
def await {β : Type} (t : Timeline σ) (look : View → Option β) (limit : Option Nat) :
    Timeline σ × Awaited β :=
  match glance look t with
  | some outcome => (t, outcome)
  | none =>
    if limit = some 0 then (t, .timedOut)
    else
      let t := t.settle
      awaitFrom look t.instants t (limit.map (t.now + ·))

/-- Looks for a view with a property; the view of a closed session is the last to be asked. -/
def lookFor (p : View → Bool) (v : View) : Option (Except Fault View) :=
  if p v then some (.ok v) else if v.closed then some (.error .closed) else none

/-! ## Starting -/

/-- What is left of a session that could not be started. -/
structure Stillborn (σ : Type) where
  /-- `none` if who starts the session is brought down, by a call or as no queue is that long. -/
  fault : Option Service.Fault
  service : σ
  now : Nat
  /-- The query whose release has been set off. It has not begun, and nobody waits for it. -/
  spawned : Option Query.Id := none

/-- The service when everybody else waits, so that a release that was set off begins. -/
def Stillborn.settle (left : Stillborn σ) : σ :=
  match left.spawned with
  | some id =>
    let reception := QueryService.receive left.service (.release id)
    if reception.wait = some 0 then (reception.conclude reception.service).1 else reception.service
  | none => left.service

/-- Starts a query, submits its words and sets its session off. If the words are not taken, the
release of the query is set off, to be made some time later. -/
def start (service : σ) (phrase : Query.Phrase) (settings : Settings) :
    Except (Stillborn σ) (Timeline σ) :=
  let opening := QueryService.receive service .start
  let now := opening.wait.getD 0
  match opening.conclude opening.service with
  | (service, .crashed) => .error { fault := none, service, now }
  | (service, .returned (.error fault)) => .error { fault := some fault, service, now }
  | (service, .returned (.ok id)) =>
    let deadline := now + settings.fallback
    let submission := QueryService.receive service (.submit id phrase)
    let now := now + submission.wait.getD 0
    match submission.conclude submission.service with
    | (service, .crashed) => .error { fault := none, service, now }
    | (service, .returned (.error fault)) =>
      .error { fault := some fault, service, now, spawned := some id }
    | (service, .returned (.ok _)) =>
      if Settings.maxBuffer < settings.commandBuffer then .error { fault := none, service, now }
      else
        let s := Running.init ⟨id, phrase⟩
        .ok
          { now, service, status := .running s, view := s.view, deadline,
            capacity := settings.capacity }

/-- A session is started when its query is, its words are accepted and its queue can be made. -/
theorem start_eq_ok {service : σ} {phrase : Query.Phrase} {settings : Settings} {t : Timeline σ}
    (h : start service phrase settings = .ok t) :
    ∃ (id : Query.Id) (started handed : σ) (now deadline : Nat),
      (QueryService.receive service .start).conclude
        (QueryService.receive service .start).service = (started, .returned (.ok id)) ∧
      (QueryService.receive started (.submit id phrase)).conclude
        (QueryService.receive started (.submit id phrase)).service =
          (handed, .returned (.ok ())) ∧
      settings.commandBuffer ≤ Settings.maxBuffer ∧
      t =
        { now, service := handed, status := .running (.init ⟨id, phrase⟩),
          view := (Running.init ⟨id, phrase⟩).view, deadline
          capacity := settings.capacity } := by
  unfold start at h
  dsimp only at h
  split at h
  · cases h
  · cases h
  · rename_i started id hopening
    split at h
    · cases h
    · cases h
    · rename_i handed _ hsubmission
      split at h
      · cases h
      · rename_i hqueue
        cases h
        exact ⟨id, started, handed, _, _, hopening, hsubmission, Nat.not_lt.mp hqueue, rfl⟩

theorem capacity_of_start {service : σ} {phrase : Query.Phrase} {settings : Settings}
    {t : Timeline σ} (h : start service phrase settings = .ok t) :
    t.capacity = settings.capacity := by
  obtain ⟨_, _, _, _, _, _, _, _, rfl⟩ := start_eq_ok h
  rfl

/-- A session is refused when its query cannot be started or its words are not accepted. -/
theorem start_eq_error {service : σ} {phrase : Query.Phrase} {settings : Settings}
    {left : Stillborn σ} {fault : Service.Fault} (h : start service phrase settings = .error left)
    (hfault : left.fault = some fault) :
    ((QueryService.receive service .start).conclude
        (QueryService.receive service .start).service = (left.service, .returned (.error fault)) ∧
      left.spawned = none) ∨
    ∃ (id : Query.Id) (started : σ),
      (QueryService.receive service .start).conclude
        (QueryService.receive service .start).service = (started, .returned (.ok id)) ∧
      (QueryService.receive started (.submit id phrase)).conclude
        (QueryService.receive started (.submit id phrase)).service =
          (left.service, .returned (.error fault)) ∧
      left.spawned = some id := by
  unfold start at h
  dsimp only at h
  split at h
  · cases h
    cases hfault
  · rename_i hopening
    cases h
    cases hfault
    exact Or.inl ⟨hopening, rfl⟩
  · rename_i started id hopening
    split at h
    · cases h
      cases hfault
    · rename_i hsubmission
      cases h
      cases hfault
      exact Or.inr ⟨id, started, hopening, hsubmission, rfl⟩
    · split at h <;> cases h
      cases hfault

/-! ## What the user does -/

/-- Sends a notification on the channel; `false` if nobody listens any more. -/
def notify (t : Timeline σ) (n : Notification) : Timeline σ × Bool :=
  match t.status with
  | .running _ => if t.channelOpen then ({ t with inbox := t.inbox ++ [n] }, true) else (t, false)
  | _ => (t, false)

omit [QueryService σ] in
theorem notify_of_open {t : Timeline σ} {s : Running} (hs : t.status = .running s)
    (hopen : t.channelOpen = true) (n : Notification) :
    t.notify n = ({ t with inbox := t.inbox ++ [n] }, true) := by
  unfold notify
  rw [hs, if_pos hopen]

omit [QueryService σ] in
/-- A notification is left in the inbox of a session that runs, or nobody gets it. -/
theorem notify_cases (t : Timeline σ) (n : Notification) :
    t.notify n = ({ t with inbox := t.inbox ++ [n] }, true) ∨ t.notify n = (t, false) := by
  unfold notify
  split
  · split
    · exact Or.inl rfl
    · exact Or.inr rfl
  · exact Or.inr rfl

/-- Nobody will send notifications any more. -/
def disconnect (t : Timeline σ) : Timeline σ := { t with channelOpen := false }

/-- Sends a command. If there is no room, the session runs until there is. -/
def send (t : Timeline σ) (c : Command) : Timeline σ × Except Fault Unit :=
  let t := if t.capacity ≤ t.queue.length then t.settle else t
  match t.status with
  | .running _ => ({ t with queue := t.queue ++ [c], sent := t.sent + 1 }, .ok ())
  | _ => (t, .error .closed)

/-- A command is sent when there is room for it, if the session still runs then. -/
theorem send_cases (t : Timeline σ) (c : Command) :
    ∃ u : Timeline σ, (u = t ∧ t.queue.length < t.capacity ∨ u = t.settle) ∧
      ((∃ s, u.status = .running s ∧
          t.send c = ({ u with queue := u.queue ++ [c], sent := u.sent + 1 }, .ok ())) ∨
        t.send c = (u, .error .closed)) := by
  unfold send
  have hroom : (if t.capacity ≤ t.queue.length then t.settle else t) = t ∧
        t.queue.length < t.capacity ∨
      (if t.capacity ≤ t.queue.length then t.settle else t) = t.settle := by
    split
    · exact Or.inr rfl
    · exact Or.inl ⟨rfl, Nat.lt_of_not_le ‹_›⟩
  generalize (if t.capacity ≤ t.queue.length then t.settle else t) = u at hroom ⊢
  refine ⟨u, hroom, ?_⟩
  dsimp only
  split
  · rename_i s hs
    exact Or.inl ⟨s, hs, rfl⟩
  · exact Or.inr rfl

/-- Asks for the next page. Refused while the view does not show the query as ranked. -/
def loadMore (t : Timeline σ) : Timeline σ × Except Fault Unit :=
  if t.view.isRanked then t.send .loadMore else (t, .error (.notRanked t.view.query))

def mark (t : Timeline σ) (index : Nat) : Timeline σ × Except Fault Unit := t.send (.mark index)

def markTailDistractors (t : Timeline σ) : Timeline σ × Except Fault Unit :=
  t.send .markTailDistractors

/-- Whether every command sent so far has been handled and nothing is in flight. -/
def isSynced (sent : Nat) (v : View) : Bool :=
  sent ≤ v.commandsHandled && v.pendingUpdates == 0 && !v.loadingPage

def awaitView (t : Timeline σ) (p : View → Bool) (limit : Option Nat) :
    Timeline σ × Awaited (Except Fault View) :=
  t.await (lookFor p) limit

def sync (t : Timeline σ) (limit : Option Nat) : Timeline σ × Awaited (Except Fault View) :=
  t.awaitView (isSynced t.sent) limit

/-- Lets go of the session, which closes when it runs. -/
def drop (t : Timeline σ) : Timeline σ := { t with closing := true }

/-- Closes the session and gives its last view. The release is not waited for. -/
def close (t : Timeline σ) : Timeline σ × Except Fault View :=
  let t := t.drop.settle
  match t.status with
  | .ended => (t, .ok t.view)
  | _ => (t, .error .broken)

theorem close_fst (t : Timeline σ) : t.close.1 = t.drop.settle := by
  unfold close
  dsimp only
  split <;> rfl

/-- Closes the session and waits for the release, for a limited time. -/
def closeAndRelease (t : Timeline σ) (limit : Nat) : Timeline σ × Except Fault View :=
  let (t, result) := t.close
  match result, t.release with
  | .ok v, some c => (t.moveTo (min (c.due.getD (t.now + limit)) (t.now + limit)), .ok v)
  | _, _ => (t, result)

end Timeline

end RankedSearch.Session
