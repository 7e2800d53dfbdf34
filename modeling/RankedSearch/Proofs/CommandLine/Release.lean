import RankedSearch.Proofs.CommandLine.OnTheClock
import RankedSearch.Proofs.Service.Agreement

/-! # What a run owes to its query

A query that was started is to be released before the run is over, as what is still on its way then
is lost. A run that got its session closes it, whatever has become of it, and waits for the release
as long as a request may take. A run whose words were refused has no session to close: it is over at
once, with the release only set off. `run_gaveBack_iff` says so of all executions of a run, of which
by `runSession_executes` the run on its clock is one, and of that run against any server. -/
namespace RankedSearch.CommandLine

open RankedSearch.Session
open RankedSearch.Service (Backend CallKind Remote Request call? exchange)

/-! ## A run with a session -/

section

variable {σ : Type} [QueryService σ] {P : σ → Prop} {route : Query.Route} {now : Nat}
  {t : Timeline σ}

/-- **A run that gets a session waits for the release.** -/
theorem runSession_givenBack (hσ : Steady σ P) (args : Arguments) {plan : Plan} {service : σ}
    (news : List Notification) (channelOpen : Bool)
    (hstart : Timeline.start service plan.phrase plan.settings = .ok t)
    (h : t.Lasts P route false now) :
    ∃ (ended : Nat) (w : Timeline σ),
      Timeline.GivenBack P route.id ended plan.timeout w ∧
      (runSession args plan service news channelOpen).service = w.service ∧
      (runSession args plan service news channelOpen).releasePending = w.release.isSome ∧
      (runSession args plan service news channelOpen).returned = true := by
  have hnews := h.notifyAll news
  have hopen : (if channelOpen then news.foldl (fun t n => (t.notify n).1) t
      else (news.foldl (fun t n => (t.notify n).1) t).disconnect).Lasts P route false now := by
    split
    · exact hnews
    · exact hnews.disconnect
  unfold runSession
  rw [hstart]
  dsimp only
  generalize (if channelOpen then news.foldl (fun t n => (t.notify n).1) t
    else (news.foldl (fun t n => (t.notify n).1) t).disconnect) = opened at hopen ⊢
  obtain ⟨ended, hdriven⟩ := lasts_drive hσ hopen args
  obtain ⟨w, hback, hclosed⟩ := hdriven.closeAndRelease hσ plan.timeout
  refine ⟨ended, w, hback, ?_⟩
  rw [hclosed]
  unfold conclude
  dsimp only
  cases (drive opened args).2 <;> exact ⟨rfl, rfl, rfl⟩

/-! ## Starting a session -/

variable {service started handed : σ} {phrase : Query.Phrase} {id : Query.Id}

/-- The words of a query that was started are refused. -/
theorem start_of_refused {fault : Service.Fault} (settings : Settings)
    (hstart : call? service .start = some (started, .ok id))
    (hsubmit : call? started (.submit id phrase) = some (handed, .error fault)) :
    ∃ now, Timeline.start service phrase settings =
      .error { fault := some fault, service := handed, now, spawned := some id } := by
  unfold Timeline.start
  dsimp only
  rw [Service.call?_eq_some hstart]
  dsimp only
  rw [Service.call?_eq_some hsubmit]
  exact ⟨_, rfl⟩

/-- The words of a query that was started are accepted, and there is a queue for its session. -/
theorem start_of_accepted {u : Unit} {settings : Settings}
    (hqueue : settings.commandBuffer ≤ Settings.maxBuffer)
    (hstart : call? service .start = some (started, .ok id))
    (hsubmit : call? started (.submit id phrase) = some (handed, .ok u)) (hhanded : P handed) :
    ∃ t now, Timeline.start service phrase settings = .ok t ∧
      t.Lasts P ⟨id, phrase⟩ false now := by
  unfold Timeline.start
  dsimp only
  rw [Service.call?_eq_some hstart]
  dsimp only
  rw [Service.call?_eq_some hsubmit]
  dsimp only
  rw [if_neg (Nat.not_lt.mpr hqueue)]
  exact ⟨_, _, rfl, ⟨[], _, rfl, rfl, rfl, rfl⟩, hhanded, nofun, rfl, rfl, rfl⟩

/-- No session is started whose queue would be too long, and who starts it is brought down. -/
theorem start_of_overlong {u : Unit} {settings : Settings}
    (hqueue : Settings.maxBuffer < settings.commandBuffer)
    (hstart : call? service .start = some (started, .ok id))
    (hsubmit : call? started (.submit id phrase) = some (handed, .ok u)) :
    ∃ now, Timeline.start service phrase settings =
      .error { fault := none, service := handed, now } := by
  unfold Timeline.start
  dsimp only
  rw [Service.call?_eq_some hstart]
  dsimp only
  rw [Service.call?_eq_some hsubmit]
  dsimp only
  rw [if_pos hqueue]
  exact ⟨_, rfl⟩

end

/-! ## A run against a server -/

section

variable {σ : Type} [Http.Server σ]

/-- A client with an address and a time limit. -/
structure IsClient (base : Url) (timeout : Nat) (s : Remote σ) : Prop where
  base : s.base = base
  timeout : s.timeout = timeout

/-- A client stays what it is, and its calls bring nobody down. -/
theorem steady_remote (base : Url) (timeout : Nat) :
    Steady (Remote σ) (IsClient base timeout) where
  received _ h := ⟨h.base, h.timeout⟩
  harmless _ _ _ h := ⟨h, _, rfl⟩

/-- No call takes longer than the time limit. -/
theorem exists_wait (s : Remote σ) (r : Request) :
    ∃ wait, (QueryService.receive s r).wait = some wait ∧ wait ≤ s.timeout := by
  refine ⟨_, rfl, ?_⟩
  unfold Service.inTime
  split
  · split
    · exact Nat.le_of_lt ‹_›
    · exact Nat.le_refl _
  · exact Nat.le_refl _

/-- What a run owes to its query: the last that the server has received is the request to release
it, and the run has waited until the answer was there or the time for a request was over. -/
structure GaveBack (base : Url) (id : Query.Id) (outcome : Outcome σ) : Prop where
  asked : ∃ server : σ,
    outcome.service = (Http.Server.receive server ((Request.release id).toHttp base)).1
  awaited : outcome.releasePending = false

theorem IsClient.call? {base : Url} {timeout : Nat} {s s' : Remote σ} {r : Request}
    {result : Except Service.Fault r.Reply} (hs : IsClient base timeout s)
    (h : Service.call? s r = some (s', result)) : IsClient base timeout s' := by
  have hservice : (QueryService.receive s r).service = s' :=
    congrArg Prod.fst (Service.call?_eq_some h)
  rw [← hservice]
  exact ⟨hs.base, hs.timeout⟩

/-- Every call of a client comes to an end. -/
theorem exists_call? (s : Remote σ) (r : Request) :
    ∃ s' result, call? s r = some (s', result) := ⟨_, _, rfl⟩

variable (args : Arguments) {plan : Plan} {s started handed : Remote σ} {id : Query.Id}

theorem runSession_of_accepted {u : Unit} (news : List Notification) (channelOpen : Bool)
    (hs : IsClient plan.base plan.timeout s)
    (hqueue : plan.settings.commandBuffer ≤ Settings.maxBuffer)
    (hstart : call? s .start = some (started, .ok id))
    (hsubmit : call? started (.submit id plan.phrase) = some (handed, .ok u)) :
    (∃ server : σ, (runSession args plan s news channelOpen).service.server =
      (Http.Server.receive server ((Request.release id).toHttp plan.base)).1) ∧
    (runSession args plan s news channelOpen).releasePending = false ∧
    (runSession args plan s news channelOpen).returned = true := by
  have hσ := @steady_remote σ _ plan.base plan.timeout
  have hhanded := (hs.call? hstart).call? hsubmit
  obtain ⟨t, now, hopened, hlasts⟩ := start_of_accepted hqueue hstart hsubmit hhanded
  obtain ⟨ended, w, hback, hservice, hpending, hreturned⟩ :=
    runSession_givenBack hσ args news channelOpen hopened hlasts
  rw [hservice, hpending]
  cases hback with
  | @concluded client hclient wait _ _ hrelease hkept =>
    rw [hrelease, hkept]
    refine ⟨⟨client.server, ?_⟩, rfl, hreturned⟩
    rw [← hclient.base]
    rfl
  | @waited client hclient hlate _ _ _ =>
    obtain ⟨wait, hwait, hle⟩ := exists_wait client (.release id)
    have hlonger := hlate wait hwait
    rw [hclient.timeout] at hle
    exact absurd hle (Nat.not_le.mpr hlonger)

/-- The release of a query whose words were refused is only set off. -/
theorem runSession_of_refused {fault : Service.Fault} (news : List Notification)
    (channelOpen : Bool) (hstart : call? s .start = some (started, .ok id))
    (hsubmit : call? started (.submit id plan.phrase) = some (handed, .error fault)) :
    runSession args plan s news channelOpen =
      { lines := [], fault := some (.service fault), service := handed, releasePending := true
        spawned := some id } := by
  obtain ⟨now, hrefused⟩ := start_of_refused plan.settings hstart hsubmit
  unfold runSession
  rw [hrefused]
  rfl

theorem runSession_of_overlong {u : Unit} (news : List Notification) (channelOpen : Bool)
    (hqueue : Settings.maxBuffer < plan.settings.commandBuffer)
    (hstart : call? s .start = some (started, .ok id))
    (hsubmit : call? started (.submit id plan.phrase) = some (handed, .ok u)) :
    (runSession args plan s news channelOpen).returned = false := by
  obtain ⟨now, hlost⟩ := start_of_overlong hqueue hstart hsubmit
  unfold runSession
  rw [hlost]
  rfl

/-- A run whose channel is open is the run of a session. -/
theorem run_of_opened {configText : Option String} {server opened : σ} (channelOpen : Bool)
    (hplan : Plan.make args configText = .ok plan) {answer : Http.Answer}
    (hchannel : Http.Server.receive server (Service.Channel.request plan.channel) =
      (opened, answer))
    {news : List Notification} (hnews : Service.Channel.connect answer.delivery = .ok news) :
    (run args configText server channelOpen).service =
        (runSession args plan (⟨plan.base, plan.timeout, opened⟩ : Remote σ) news
          channelOpen).service.server ∧
      (run args configText server channelOpen).releasePending =
        (runSession args plan (⟨plan.base, plan.timeout, opened⟩ : Remote σ) news
          channelOpen).releasePending ∧
      (run args configText server channelOpen).returned =
        (runSession args plan (⟨plan.base, plan.timeout, opened⟩ : Remote σ) news
          channelOpen).returned := by
  unfold run
  rw [hplan]
  dsimp only
  rw [hchannel]
  dsimp only
  rw [hnews]
  exact ⟨rfl, rfl, rfl⟩

end

/-- **When a run gives its query back.** Whatever the arguments and the configuration, a run whose
query was started and that returns has waited for the release just if the words of the query were
accepted: in every execution, whatever the service answers and whenever it does and whatever news
come meanwhile, and on the clock against every server. -/
theorem run_gaveBack_iff {args : Arguments} {configText : Option String} {plan : Plan}
    (hplan : Plan.make args configText = .ok plan) {id : Query.Id} :
    (∀ {e : Execution} {result : Except String Unit} {since : Option Nat},
      e.Reachable args plan → e.place = .returned result since → e.phase.query? = some id →
      (e.GaveBack plan id ↔ e.Accepted plan id)) ∧
    ∀ {σ : Type} [Http.Server σ] {server opened : σ} {started : Remote σ} (channelOpen : Bool)
      {answer : Http.Answer} {news : List Notification},
      Http.Server.receive server (Service.Channel.request plan.channel) = (opened, answer) →
      Service.Channel.connect answer.delivery = .ok news →
      call? (⟨plan.base, plan.timeout, opened⟩ : Remote σ) .start = some (started, .ok id) →
      (run args configText server channelOpen).returned = true →
      (GaveBack plan.base id (run args configText server channelOpen) ↔
        ∃ handed, call? started (.submit id plan.phrase) = some (handed, .ok ())) := by
  refine ⟨fun h hover hid => h.gaveBack_iff hover hid, ?_⟩
  intro σ _ server opened started channelOpen answer news hchannel hnews hstart hreturned
  obtain ⟨hservice, hpending, hends⟩ := run_of_opened args channelOpen hplan hchannel hnews
  obtain ⟨handed, result, hsubmit⟩ := exists_call? started (.submit id plan.phrase)
  cases result with
  | ok u =>
    refine iff_of_true ?_ ⟨handed, hsubmit⟩
    rcases Nat.lt_or_ge Settings.maxBuffer plan.settings.commandBuffer with hqueue | hqueue
    · have hlost := runSession_of_overlong args news channelOpen hqueue hstart hsubmit
      cases (hends.symm.trans hreturned).symm.trans hlost
    · obtain ⟨⟨last, hasked⟩, hawaited, _⟩ := runSession_of_accepted args news channelOpen
        ⟨rfl, rfl⟩ hqueue hstart hsubmit
      exact ⟨⟨last, hservice.trans hasked⟩, hpending.trans hawaited⟩
  | error fault =>
    rw [runSession_of_refused args news channelOpen hstart hsubmit] at hpending
    refine iff_of_false (fun hback => ?_) ?_
    · cases hpending.symm.trans hback.awaited
    · rintro ⟨_, haccepted⟩
      cases hsubmit.symm.trans haccepted

/-! ## A server that takes its time -/

def sampleArguments : Arguments := { config := "visor.toml", query := "red bicycle" }

def sampleConfig : String :=
  "[service]\nlog_level = \"info\"\n\n[api]\nbase_url = \"http://127.0.0.1:8080\"\n" ++
    "timeout_ms = 1000\n\n[lifecycle]\n"

/-- A server whose channel opens at once, and whose answers all take the same time after that. -/
structure Slow (σ : Type) where
  server : σ
  delay : Nat
  channelOpen : Bool := false

variable {σ : Type} [Http.Server σ]

instance : Http.Server (Slow σ) where
  receive s r :=
    if s.channelOpen then
      let (server, answer) := Http.Server.receive s.server r
      ({ s with server }, { answer with delay := some s.delay })
    else ({ s with channelOpen := true }, { delivery := .answered .ok "" })

theorem call?_slow {base : Url} {timeout delay : Nat} (hdelay : delay < timeout) (server : σ)
    (r : Request) :
    (QueryService.receive (⟨base, timeout, ⟨server, delay, true⟩⟩ : Remote (Slow σ)) r).wait =
        some delay ∧
      call? (⟨base, timeout, ⟨server, delay, true⟩⟩ : Remote (Slow σ)) r =
        some (⟨base, timeout, ⟨(exchange base server r).1, delay, true⟩⟩,
          (exchange base server r).2) := by
  have hreceive : Http.Server.receive (⟨server, delay, true⟩ : Slow σ) (r.toHttp base) =
      (⟨(Http.Server.receive server (r.toHttp base)).1, delay, true⟩,
        { delivery := (Http.Server.receive server (r.toHttp base)).2.delivery,
          delay := some delay }) := rfl
  unfold call? exchange
  simp only [QueryService.receive, hreceive, Service.inTime, hdelay, if_true]
  exact ⟨trivial, trivial⟩

/-- What a run on the sample configuration is set up with. -/
theorem exists_plan : ∃ plan, Plan.make sampleArguments (some sampleConfig) = .ok plan ∧
    Service.IsRoot plan.base ∧ plan.timeout = 1000 ∧
      plan.settings.commandBuffer ≤ Settings.maxBuffer := by
  obtain ⟨base, hbase, hroot⟩ :
      ∃ base, Service.baseUrl "http://127.0.0.1:8080" = .ok base ∧ Service.IsRoot base :=
    ⟨_, rfl, rfl, rfl, rfl⟩
  have hload : ((Config.load sampleArguments.config (some sampleConfig)).toOption.map
      fun config => (config.baseUrl, config.timeout, config.commandBuffer)) =
        some ("http://127.0.0.1:8080", 1000, 32) := by decide +kernel
  have hphrase : (Query.Phrase.ofText sampleArguments.query).isOk = true := by decide +kernel
  unfold Plan.make
  cases hconfig : Config.load sampleArguments.config (some sampleConfig) with
  | error fault =>
    rw [hconfig] at hload
    cases hload
  | ok config =>
    rw [hconfig] at hload
    obtain ⟨hurl, hnumbers⟩ := Prod.mk.inj (Option.some.inj hload)
    obtain ⟨htimeout, hbuffer⟩ := Prod.mk.inj hnumbers
    cases hwords : Query.Phrase.ofText sampleArguments.query with
    | error fault =>
      rw [hwords] at hphrase
      cases hphrase
    | ok phrase =>
      dsimp only
      rw [hurl, hbase]
      refine ⟨_, rfl, hroot, congrArg UInt64.toNat htimeout, ?_⟩
      show config.commandBuffer.toNat ≤ _
      rw [hbuffer]
      decide

/-- The server in memory after it has started its first query. -/
def begun (failing : List CallKind) : Backend :=
  { pages := [], queries := [(Backend.firstId, {})], calls := [.start], failing, allocated := 1 }

/-- A query is started on a slow server in memory. -/
theorem call?_start {base : Url} (hbase : Service.IsRoot base) {timeout delay : Nat}
    (hdelay : delay < timeout) {failing : List CallKind}
    (hfailing : failing.contains .start = false) :
    call? (⟨base, timeout, ⟨{ pages := [], failing }, delay, true⟩⟩ : Remote (Slow Backend))
        .start =
      some (⟨base, timeout, ⟨begun failing, delay, true⟩⟩, .ok Backend.firstId) := by
  have hcall : Backend.Call.ofHttp (Request.start.toHttp base) = .ok .start :=
    Backend.ofHttp_toHttp hbase (by rintro _ ⟨⟩)
  have hanswer : ({ pages := [], failing } : Backend).answer .start =
      (begun failing, (.ok, .record
        [("success", .bool true), ("query_id", Backend.firstId.toJson)])) := by
    unfold Backend.answer
    simp only [Backend.Call.kind, hfailing]
    rfl
  have hslow := (@call?_slow _ _ base _ _ hdelay ({ pages := [], failing } : Backend) .start).2
  rw [Backend.exchange_of_call hcall, hanswer] at hslow
  have hid := Service.interpret_start_accepted Backend.firstId
  dsimp only at hslow
  rw [hid] at hslow
  exact hslow

/-- A query whose words were accepted: a slow release is waited for. -/
theorem run_gaveBack_iff_accepted :
    ∃ plan started, Plan.make sampleArguments (some sampleConfig) = .ok plan ∧
      (∃ (e : Execution) (result : Except String Unit) (since : Option Nat),
        e.Reachable sampleArguments plan ∧ e.place = .returned result since ∧
          e.phase.query? = some Backend.firstId ∧ e.GaveBack plan Backend.firstId) ∧
      let server : Slow Backend := { server := { pages := [] }, delay := 50 }
      call? (⟨plan.base, plan.timeout, { server with channelOpen := true }⟩ :
        Remote (Slow Backend)) .start = some (started, .ok Backend.firstId) ∧
      (run sampleArguments (some sampleConfig) server).returned = true ∧
      GaveBack plan.base Backend.firstId (run sampleArguments (some sampleConfig) server) := by
  obtain ⟨plan, hplan, hroot, htimeout, hqueue⟩ := exists_plan
  have hdelay : 50 < plan.timeout := by
    rw [htimeout]
    norm_num
  have hstart := @call?_start _ hroot _ _ hdelay [] rfl
  have hhosts : Backend.Hosts [] {} (begun []) := ⟨rfl, rfl, rfl⟩
  have hsubmit := (@call?_slow _ _ plan.base _ _ hdelay (begun [])
    (.submit Backend.firstId plan.phrase)).2
  rw [Backend.exchange_submit hroot hhosts] at hsubmit
  have hchannel : Http.Server.receive ({ server := { pages := [] }, delay := 50 } : Slow Backend)
      (Service.Channel.request plan.channel) =
        ({ server := { pages := [] }, delay := 50, channelOpen := true },
          { delivery := .answered .ok "" }) := rfl
  have hnews : Service.Channel.connect (.answered .ok "") = .ok [] := rfl
  have hreturned : (run sampleArguments (some sampleConfig)
      ({ server := { pages := [] }, delay := 50 } : Slow Backend)).returned = true :=
    (run_of_opened sampleArguments true hplan hchannel hnews).2.2.trans
      (runSession_of_accepted sampleArguments [] true ⟨rfl, rfl⟩ hqueue hstart hsubmit).2.2
  obtain ⟨hexecution, hclock⟩ := run_gaveBack_iff hplan
  obtain ⟨e, since, hreachable, hover, hphase, haccepted⟩ :=
    Execution.exists_accepted sampleArguments hqueue Backend.firstId
  have hquery : e.phase.query? = some Backend.firstId := congrArg Phase.query? hphase
  exact ⟨plan, _, hplan,
    ⟨e, _, _, hreachable, hover, hquery, (hexecution hreachable hover hquery).mpr haccepted⟩,
    hstart, hreturned, (hclock true hchannel hnews hstart hreturned).mpr ⟨_, hsubmit⟩⟩

/-- A query whose words are refused is left to be released behind the back of the run. -/
theorem not_gaveBack_refused :
    ∃ plan started, Plan.make sampleArguments (some sampleConfig) = .ok plan ∧
      (∃ (e : Execution) (result : Except String Unit) (since : Option Nat),
        e.Reachable sampleArguments plan ∧ e.place = .returned result since ∧
          e.phase.query? = some Backend.firstId ∧ ¬e.GaveBack plan Backend.firstId) ∧
      let server : Slow Backend := { server := { pages := [], failing := [.submit] }, delay := 50 }
      call? (⟨plan.base, plan.timeout, { server with channelOpen := true }⟩ :
        Remote (Slow Backend)) .start = some (started, .ok Backend.firstId) ∧
      (run sampleArguments (some sampleConfig) server).returned = true ∧
      ¬GaveBack plan.base Backend.firstId (run sampleArguments (some sampleConfig) server) := by
  obtain ⟨plan, hplan, hroot, htimeout, _⟩ := exists_plan
  have hdelay : 50 < plan.timeout := by
    rw [htimeout]
    norm_num
  have hstart := @call?_start _ hroot _ _ hdelay [.submit] rfl
  have hcall : Backend.Call.ofHttp ((Request.submit Backend.firstId plan.phrase).toHttp plan.base) =
      .ok (.submit Backend.firstId plan.phrase.words) :=
    Backend.ofHttp_toHttp hroot (Backend.isSendable_idFor rfl)
  have hreply : ((begun [.submit]).answer (.submit Backend.firstId plan.phrase.words)).2 =
      Backend.refused .internalError "image search failed" := rfl
  have hsubmit := (@call?_slow _ _ plan.base _ _ hdelay (begun [.submit])
    (.submit Backend.firstId plan.phrase)).2
  rw [Backend.exchange_of_call hcall] at hsubmit
  dsimp only at hsubmit
  rw [Service.interpret_refused _ hreply] at hsubmit
  have hchannel : Http.Server.receive
      ({ server := { pages := [], failing := [.submit] }, delay := 50 } : Slow Backend)
      (Service.Channel.request plan.channel) =
        ({ server := { pages := [], failing := [.submit] }, delay := 50, channelOpen := true },
          { delivery := .answered .ok "" }) := rfl
  have hnews : Service.Channel.connect (.answered .ok "") = .ok [] := rfl
  obtain ⟨_, hpending, hends⟩ := run_of_opened sampleArguments true hplan hchannel hnews
  rw [runSession_of_refused sampleArguments [] true hstart hsubmit] at hpending hends
  obtain ⟨e, hreachable, hover, hphase⟩ :=
    Execution.exists_refused sampleArguments plan Backend.firstId .transport
  refine ⟨plan, _, hplan,
    ⟨e, _, _, hreachable, hover, congrArg Phase.query? hphase, ?_⟩, hstart, hends, ?_⟩
  · rintro ⟨_, _, hjoined, _⟩
    cases hover.symm.trans hjoined
  · intro hback
    cases hpending.symm.trans hback.awaited

end RankedSearch.CommandLine
