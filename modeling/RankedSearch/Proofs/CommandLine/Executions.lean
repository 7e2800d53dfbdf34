import RankedSearch.Proofs.CommandLine.StepByStep
import RankedSearch.Proofs.Session.Course

/-! # All executions of a run

A run goes its way while its session and the service go theirs. Calls return what they like and when
they like, if they do; news come at any time, and the run goes on at some time after it could.
`Execution.Moves` is one step of any of them, from the call that starts the query until the run is
over: a release that has not concluded by then never will. Between two steps of the others the run
goes from place to place as `drive_walks` says that it does on the clock. By
`Execution.Reachable.gaveBack_iff` it has waited for the release when it is over just if it got a
session. -/
namespace RankedSearch.CommandLine

open RankedSearch.Session
open RankedSearch.Service (Request)

/-- A run with its query, on a clock. -/
structure Execution where
  /-- What has happened to the query. -/
  log : List Happening := [.called .start]
  phase : Phase := .starting
  now : Nat := 0
  place : Place := .starting

namespace Execution

/-- How many commands were accepted. -/
def sent (e : Execution) : Nat := (Session.sent e.log).length

/-- Something happens to the query. -/
def follow (e : Execution) (es : List Happening) (p : Phase) (place : Place) : Execution :=
  { e with log := e.log ++ es, phase := p, place }

/-- What can happen next. -/
inductive Moves (args : Arguments) (plan : Plan) (e : Execution) : Execution → Prop
  | tick {later : Nat} (hon : e.place.goesOn = true) (hlater : e.now ≤ later) :
      Moves args plan e { e with now := later }
  /-- The session takes something in, makes a call or ends, or its release begins or concludes. -/
  | session {es : List Happening} {p : Phase} (hunder : e.place.underway)
      (h : e.phase.Step plan.phrase es p) (hown : Unprompted es) :
      Moves args plan e (e.follow es p e.place)
  | unstarted {fault : Service.Fault} (hplace : e.place = .starting)
      (h : e.phase.Step plan.phrase [.returned .start (.error fault)] .unstarted) :
      Moves args plan e
        (e.follow [.returned .start (.error fault)] .unstarted
          (.returned (.error (Fault.service fault).message) none))
  | started {es : List Happening} {id : Query.Id} (hplace : e.place = .starting)
      (h : e.phase.Step plan.phrase es (.submitting id)) :
      Moves args plan e (e.follow es (.submitting id) .starting)
  | refused {id : Query.Id} {fault : Service.Fault} (hplace : e.place = .starting)
      (h : e.phase.Step plan.phrase [.returned (.submit id plan.phrase) (.error fault)]
        (.finished id)) :
      Moves args plan e
        (e.follow [.returned (.submit id plan.phrase) (.error fault)] (.finished id)
          (.refused fault))
  | accepted {es : List Happening} {l : Live} (hplace : e.place = .starting)
      (hqueue : plan.settings.commandBuffer ≤ Settings.maxBuffer)
      (h : e.phase.Step plan.phrase es (.live l)) :
      Moves args plan e (e.follow es (.live l) .opened)
  /-- The words are accepted, but no queue is as long as the configuration wants it. -/
  | overlong {id : Query.Id} (hplace : e.place = .starting)
      (hqueue : Settings.maxBuffer < plan.settings.commandBuffer)
      (hphase : e.phase = .submitting id) : Moves args plan e { e with place := .panicked }
  /-- The refusal is reported. Nobody waits for the release. -/
  | fail {fault : Service.Fault} (hplace : e.place = .refused fault) :
      Moves args plan e { e with place := .returned (.error (Fault.service fault).message) none }
  /-- The route or a stage cannot be written. -/
  | choke (hplace : e.place = .opened ∨ ∃ last, e.place = .driving .waiting last) :
      Moves args plan e { e with place := .panicked }
  /-- The run goes on by itself. -/
  | go {l : Live} {next : Place} (hphase : e.phase = .live l)
      (hnext : e.place.Next args l.session.view e.now next) :
      Moves args plan e { e with place := next }
  | send {l : Live} {c : Command} {next : Nat → Place} (hphase : e.phase = .live l)
      (hc : e.place.command? = some (c, next))
      (hroom : l.queue.length < plan.settings.capacity) :
      Moves args plan e
        (e.follow [.sent c] (.live { l with queue := l.queue ++ [c] }) (next (e.sent + 1)))
  /-- The session is told to close when it has handled what was sent before. -/
  | close {l : Live} {driven : Except Fault Unit} (hplace : e.place = .closing driven)
      (hphase : e.phase = .live l) :
      Moves args plan e (e.follow [.left] (.live { l with left := true }) (.stopping driven))
  | join {driven : Except Fault Unit} (hplace : e.place = .stopping driven)
      (hended : e.phase.ended = true) :
      Moves args plan e { e with place := .joining driven e.now }
  | conclude {driven : Except Fault Unit} {since : Nat} {id : Query.Id}
      (hplace : e.place = .joining driven since) (hphase : e.phase = .released id) :
      Moves args plan e { e with place := .reporting driven since }
  | abandon {driven : Except Fault Unit} {since : Nat} (hplace : e.place = .joining driven since)
      (hlate : since + plan.timeout ≤ e.now) :
      Moves args plan e { e with place := .reporting driven since }
  | report {driven : Except Fault Unit} {since : Nat} (hplace : e.place = .reporting driven since) :
      Moves args plan e
        { e with place := .returned (driven.mapError Fault.message) (some since) }
  /-- What was found cannot be written. -/
  | unwritten {since : Nat} (message : String) (hplace : e.place = .reporting (.ok ()) since) :
      Moves args plan e { e with place := .returned (.error message) (some since) }

/-- The executions of a run whose query is being started or has been. -/
inductive Reachable (args : Arguments) (plan : Plan) : Execution → Prop
  | start : Reachable args plan {}
  | move {e e' : Execution} (h : Reachable args plan e) (hmove : e.Moves args plan e') :
      Reachable args plan e'

/-- The words of a query were accepted. -/
def Accepted (plan : Plan) (id : Query.Id) (e : Execution) : Prop :=
  .returned (.submit id plan.phrase) (.ok ()) ∈ e.log

/-- The run has returned and has waited for the release of a query, until it had concluded or for as
long as a request may take. -/
def GaveBack (plan : Plan) (id : Query.Id) (e : Execution) : Prop :=
  ∃ result since, e.place = .returned result (some since) ∧
    ((∃ answer, .returned (.release id) answer ∈ e.log) ∨ since + plan.timeout ≤ e.now)

end Execution

/-! ## Logs -/

/-- Nothing is submitted any more when a session is over. -/
theorem Phase.Step.of_ended {phrase : Query.Phrase} {p q : Phase} {es : List Happening}
    (h : p.Step phrase es q) (hended : p.ended = true) :
    q.ended = true ∧ ∀ id answer, .returned (.submit id phrase) answer ∉ es := by
  cases h with
  | release | released =>
    refine ⟨rfl, fun id answer hm => ?_⟩
    cases List.mem_singleton.mp hm
  | unstarted | started | refused | accepted | send | leave | take | call | close => cases hended

/-- The words of a query were accepted if its session runs. -/
theorem Course.accepted {phrase : Query.Phrase} {log : List Happening} {l : Live}
    (c : Course phrase log (.live l)) :
    .returned (.submit l.session.query phrase) (.ok ()) ∈ log := by
  obtain ⟨id, body, rfl, told⟩ := c.reads
  rw [told.query_eq]
  simp [opened]

/-- No words are submitted for a query that could not be started. -/
theorem Course.not_accepted_of_unstarted {phrase : Query.Phrase} {log : List Happening}
    (c : Course phrase log .unstarted) (id : Query.Id) :
    .returned (.submit id phrase) (.ok ()) ∉ log := by
  obtain ⟨fault, rfl⟩ := c.reads
  simp

/-- The words of a query are submitted once. -/
theorem Course.not_accepted_of_refused {phrase : Query.Phrase} {log : List Happening} {p q : Phase}
    {refused : Query.Id} {fault : Service.Fault} (c : Course phrase log p)
    (h : p.Step phrase [.returned (.submit refused phrase) (.error fault)] q) (id : Query.Id) :
    .returned (.submit id phrase) (.ok ()) ∉
      log ++ [.returned (.submit refused phrase) (.error fault)] := by
  cases h
  obtain rfl := c.reads
  rw [List.mem_append, List.mem_singleton]
  rintro (hbefore | hnow)
  · simp [submitted] at hbefore
  · cases hnow

/-! ## What a run has waited for -/

variable {args : Arguments} {plan : Plan} {e e' : Execution} {id : Query.Id}

theorem Execution.Reachable.course (h : Reachable args plan e) :
    Course plan.phrase e.log e.phase := by
  induction h with
  | start => exact .start
  | move _ hmove ih =>
    cases hmove with
    | session _ h | unstarted _ h | started _ h | refused _ h | accepted _ _ h => exact ih.step h
    | send hphase =>
      rw [hphase] at ih
      exact ih.step (.send _ _)
    | close _ hphase =>
      rw [hphase] at ih
      exact ih.step (.leave _)
    | tick | overlong | fail | choke | go | join | conclude | abandon | report | unwritten =>
      exact ih

/-- The query has a session, or had one. -/
def Execution.Opened (plan : Plan) (e : Execution) : Prop :=
  ∃ id ∈ e.phase.query?, e.Accepted plan id

/-- The release has concluded, or a request may take no longer than it has been waited for. -/
def Execution.WaitedFor (plan : Plan) (since : Nat) (e : Execution) : Prop :=
  (∃ id, e.phase = .released id) ∨ since + plan.timeout ≤ e.now

/-- What the place of a run tells: whether the words of its query were accepted, and what it has
waited for when it is over. -/
def Place.Tells (plan : Plan) (e : Execution) : Place → Prop
  | .starting | .panicked => True
  | .refused _ => e.phase.ended = true ∧ ∀ id, ¬e.Accepted plan id
  | .returned _ none => ∀ id, ¬e.Accepted plan id
  | .reporting _ since | .returned _ (some since) => e.Opened plan ∧ e.WaitedFor plan since
  | _ => e.Opened plan

theorem Execution.Opened.follow {es : List Happening} {q : Phase} (h : e.Opened plan)
    (c : Course plan.phrase e.log e.phase) (hstep : e.phase.Step plan.phrase es q) (place : Place) :
    (e.follow es q place).Opened plan := by
  obtain ⟨id, hid, haccepted⟩ := h
  exact ⟨id, c.query?_step hstep id hid, List.mem_append_left _ haccepted⟩

namespace Place.Tells

variable {place : Place}

theorem tick (h : place.Tells plan e) (hon : place.goesOn = true) {later : Nat}
    (hlater : e.now ≤ later) : place.Tells plan { e with now := later } := by
  cases place with
  | returned | panicked => cases hon
  | reporting =>
    obtain ⟨hopened, hreleased | hlate⟩ := h
    · exact ⟨hopened, Or.inl hreleased⟩
    · exact ⟨hopened, Or.inr (Nat.le_trans hlate hlater)⟩
  | _ => exact h

theorem session {es : List Happening} {q : Phase} (h : place.Tells plan e)
    (hon : place.goesOn = true) (c : Course plan.phrase e.log e.phase)
    (hstep : e.phase.Step plan.phrase es q) : place.Tells plan (e.follow es q place) := by
  cases place with
  | returned | panicked => cases hon
  | starting => trivial
  | refused =>
    obtain ⟨hended, hnone⟩ := h
    obtain ⟨hended', hquiet⟩ := Phase.Step.of_ended hstep hended
    refine ⟨hended', fun id haccepted => ?_⟩
    rcases List.mem_append.mp haccepted with hbefore | hnow
    · exact hnone id hbefore
    · exact hquiet id _ hnow
  | reporting =>
    obtain ⟨hopened, hwaited⟩ := h
    refine ⟨hopened.follow c hstep _, hwaited.imp_left ?_⟩
    rintro ⟨id, hreleased⟩
    rw [hreleased] at hstep
    cases hstep
  | _ => exact h.follow c hstep _

/-- A run that goes on by itself has a session. -/
theorem next {next : Place} {v : View} {now : Nat} (h : place.Tells plan e)
    (hnext : place.Next args v now next) : next.Tells plan { e with place := next } := by
  cases hnext with
  | print | look | giveUp => exact h
  | page result =>
    cases result with
    | ok =>
      show (if args.tailDistractors then Place.marking else .closing (.ok ())).Tells plan _
      split <;> exact h
    | error => exact h
  | @settle _ result => cases result <;> exact h

theorem send {l : Live} {command : Command} {next : Nat → Place} {n : Nat}
    (h : place.Tells plan e) (c : Course plan.phrase e.log e.phase) (hphase : e.phase = .live l)
    (hc : place.command? = some (command, next)) :
    (next n).Tells plan
      (e.follow [.sent command] (.live { l with queue := l.queue ++ [command] }) (next n)) := by
  have hstep : e.phase.Step plan.phrase [.sent command]
      (.live { l with queue := l.queue ++ [command] }) := by
    rw [hphase]
    exact .send l command
  unfold Place.command? at hc
  split at hc <;> cases hc
  · exact Execution.Opened.follow h c hstep _
  · exact Execution.Opened.follow h c hstep _

end Place.Tells

/-- Each step keeps what the place of the run tells. -/
theorem Execution.Moves.tells (hmove : e.Moves args plan e')
    (c : Course plan.phrase e.log e.phase) (h : e.place.Tells plan e) :
    e'.place.Tells plan e' := by
  cases hmove with
  | tick hon hlater => exact h.tick hon hlater
  | session hunder hstep => exact h.session hunder.1 c hstep
  | unstarted _ hstep => exact Course.not_accepted_of_unstarted (c.step hstep)
  | started => trivial
  | refused _ hstep => exact ⟨rfl, Course.not_accepted_of_refused c hstep⟩
  | accepted _ _ hstep => exact ⟨_, rfl, Course.accepted (c.step hstep)⟩
  | overlong | choke => trivial
  | fail hplace =>
    rw [hplace] at h
    exact h.2
  | go hphase hnext => exact h.next hnext
  | send hphase hc => exact h.send c hphase hc
  | join hplace | report hplace | unwritten _ hplace =>
    rw [hplace] at h
    exact h
  | @close l _ hplace hphase =>
    have hstep : e.phase.Step plan.phrase [.left] (.live { l with left := true }) := by
      rw [hphase]
      exact .leave l
    rw [hplace] at h
    exact Execution.Opened.follow h c hstep _
  | conclude hplace hphase =>
    rw [hplace] at h
    exact ⟨h, Or.inl ⟨_, hphase⟩⟩
  | abandon hplace hlate =>
    rw [hplace] at h
    exact ⟨h, Or.inr hlate⟩

theorem Execution.Reachable.tells (h : Reachable args plan e) : e.place.Tells plan e := by
  induction h with
  | start => trivial
  | move h hmove ih => exact hmove.tells h.course ih

/-- **When a run gives its query back.** Whatever the service answers, whenever it does and whatever
happens meanwhile, a run that has returned has waited for the release of the query that it started
just if the words of the query were accepted. -/
theorem Execution.Reachable.gaveBack_iff (h : Reachable args plan e) {result : Except String Unit}
    {since : Option Nat} (hover : e.place = .returned result since)
    (hid : e.phase.query? = some id) : e.GaveBack plan id ↔ e.Accepted plan id := by
  have htells := h.tells
  rw [hover] at htells
  cases since with
  | none =>
    refine iff_of_false ?_ (htells id)
    rintro ⟨_, _, hjoined, _⟩
    cases hover.symm.trans hjoined
  | some since =>
    obtain ⟨⟨opened, hopened, haccepted⟩, hwaited⟩ := htells
    obtain rfl : id = opened := Option.some.inj (hid.symm.trans hopened)
    refine iff_of_true ⟨result, since, hover, ?_⟩ haccepted
    rcases hwaited with ⟨released, hreleased⟩ | hlate
    · have c := h.course
      rw [hreleased] at hid c
      obtain rfl : released = id := Option.some.inj hid
      obtain ⟨before, answer, _, hlog⟩ := c.reads
      exact Or.inl ⟨answer, by simp [hlog]⟩
    · exact Or.inr hlate

/-! ## How a run may go -/

namespace Execution

theorem reachable_submitting (args : Arguments) (plan : Plan) (id : Query.Id) :
    Reachable args plan ⟨submitted plan.phrase id, .submitting id, 0, .starting⟩ :=
  .move .start (.started rfl (.started id))

/-- The words of a query may be refused, and the run be over before anything else happens. -/
theorem exists_refused (args : Arguments) (plan : Plan) (id : Query.Id) (fault : Service.Fault) :
    ∃ e : Execution, e.Reachable args plan ∧
      e.place = .returned (.error (Fault.service fault).message) none ∧ e.phase = .finished id := by
  have hrefused := (reachable_submitting args plan id).move (.refused rfl (.refused id fault))
  exact ⟨_, hrefused.move (.fail rfl), rfl, rfl⟩

/-- A query may be accepted and not be ranked in time; its session is closed, and its release
concludes. -/
theorem exists_accepted (args : Arguments) {plan : Plan}
    (hqueue : plan.settings.commandBuffer ≤ Settings.maxBuffer) (id : Query.Id) :
    ∃ (e : Execution) (since : Nat), e.Reachable args plan ∧
      e.place = .returned (.error (Fault.notRanked args.waitSeconds).message) (some since) ∧
      e.phase = .released id ∧ e.Accepted plan id := by
  let last := args.waitSeconds.toNat * 1000
  have hopened := (reachable_submitting args plan id).move (.accepted rfl hqueue (.accepted id))
  have hwaiting := hopened.move (.go rfl .print)
  have hlate := hwaiting.move (@Moves.tick _ _ _ last rfl (Nat.zero_le _))
  have hclosing := hlate.move (.go rfl (.giveUp (Nat.le_of_eq (Nat.zero_add _))))
  have hleft := hclosing.move (.close rfl rfl)
  have hfinished := hleft.move (.session ⟨rfl, nofun⟩ (.close rfl rfl) (by simp [Unprompted]))
  have hjoining := hfinished.move (.join rfl rfl)
  have hreleasing := hjoining.move (.session ⟨rfl, nofun⟩ (.release id) (by simp [Unprompted]))
  have hreleased := hreleasing.move
    (.session ⟨rfl, nofun⟩ (.released id (.ok ())) (by simp [Unprompted]))
  have hreporting := hreleased.move (.conclude rfl rfl)
  refine ⟨_, _, hreporting.move (.report rfl), rfl, rfl, ?_⟩
  simp [Accepted, follow]

end Execution

end RankedSearch.CommandLine
