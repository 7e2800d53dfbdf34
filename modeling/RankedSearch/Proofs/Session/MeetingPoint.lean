import RankedSearch.Proofs.Session.Meeting

/-! # Where a session and the server in memory meet

Every move of a meeting takes something away of what can still happen, and where nothing can happen
any more the session and the server agree: they meet at the first page. -/
namespace RankedSearch.Session

open RankedSearch.Service (Backend Hosted IsRoot Request exchange)
open RankedSearch.Service.Backend (Hosts areFinite firstId)
open scoped List

/-! ## What can still happen -/

/-- What a session can still do by itself at most, each thing by the moves that it takes. -/
def Phase.toDo : Phase → Nat
  | .starting => 26
  | .submitting _ => 21
  | .live l => 5 * l.session.lifecycle.toAsk + 5 * l.unmade.length +
      l.session.lifecycle.timerArmed.toNat
  | _ => 0

/-- The same, with what is on its way. -/
def Meeting.toDo (m : Meeting) (p : Phase) : Nat :=
  p.toDo + 4 * m.requests.length + m.replies.length + m.inbox.length

/-- A call that the server takes in brings an answer and two notifications at most. -/
theorem Meeting.toDo_serve {m : Meeting} {base : Url} {r : Request} (hr : r ∈ m.requests)
    (p : Phase) : (m.serve base r).toDo p < m.toDo p := by
  obtain ⟨news, hsent, hfew⟩ := Service.Backend.exists_sent_exchange base m.backend r
  rcases he : exchange base m.backend r with ⟨b, result⟩
  rw [he] at hsent
  have hlength : b.sent.drop m.backend.sent.length = news := by
    rw [hsent]
    exact List.drop_left
  have hrequests := List.length_erase_of_mem hr
  have hpos := List.length_pos_of_mem hr
  rw [serve_eq he]
  unfold toDo relay
  simp only [hlength, List.length_append, List.length_singleton]
  omega

namespace Sound

variable {pages : List (List Item)} {phrase : Query.Phrase} {opening : List Request} {m : Meeting}
  {l : Live}

/-- What is asked for is a call that is to be made. -/
theorem toDo_hear (h : Sound pages phrase opening m l) {i : Input} (hi : i.answer? = none)
    (hc : i.command? = none) :
    (Phase.live (l.take i)).toDo + l.session.lifecycle.timerArmed.toNat =
      (Phase.live l).toDo + (l.session.react i).1.lifecycle.timerArmed.toNat := by
  have hasked := (l.session.reacts i).toAsk_eq
  have hunmade := congrArg List.length (h.unmade_take hi hc)
  rw [List.length_append, Option.length_toList, Option.isSome_map, ← Option.length_toList]
    at hunmade
  unfold Phase.toDo
  dsimp only
  rw [hunmade]
  simp only [Live.take_session, Running.step_fst, Running.publish_lifecycle]
  omega

theorem toDo_notified (h : Sound pages phrase opening m l) (n : Notification) :
    (Phase.live (l.take (.notified n))).toDo ≤ (Phase.live l).toDo := by
  have hheard := h.toDo_hear (i := .notified n) rfl rfl
  have htimer := (l.session.reacts (.notified n)).toNat_timerArmed_le
  omega

theorem toDo_deadline (h : Sound pages phrase opening m l) (ho : l.Offers .deadlinePassed) :
    (Phase.live (l.take .deadlinePassed)).toDo < (Phase.live l).toDo := by
  have hheard := h.toDo_hear (i := .deadlinePassed) rfl rfl
  have harmed : l.session.lifecycle.timerArmed = true := ho
  have hafter : (l.session.react .deadlinePassed).1.lifecycle.timerArmed = false := by
    rw [(l.session.reacts .deadlinePassed).lifecycle_eq]
    exact l.session.lifecycle.timerArmed_passDeadline
  rw [harmed, hafter, Bool.toNat_true, Bool.toNat_false] at hheard
  omega

/-- The answer to an errand starts nothing. -/
theorem toDo_answered (h : Sound pages phrase opening m l) {task : Task} (ht : task ∈ l.made)
    (result : Except Service.Fault (task.request firstId).Reply) :
    (Phase.live (l.take (.answered (task.answer firstId result)))).toDo = (Phase.live l).toDo := by
  obtain ⟨a, rfl⟩ := h.errands task (List.mem_append_right _ ht)
  have hlife := (l.session.reacts (.answered (a.errand.answer firstId result))).lifecycle_of_answer
  have hstarted : (l.session.react (.answered (a.errand.answer firstId result))).2 = [] := by
    cases a <;> cases result <;> rfl
  unfold Phase.toDo Live.take
  simp only [Running.step_fst, Running.step_snd, Running.publish_lifecycle, hlife, hstarted,
    List.append_nil]

theorem toDo_call {task : Task} (ht : task ∈ l.unmade) :
    (Phase.live (l.call task)).toDo + 5 = (Phase.live l).toDo := by
  have hlength := List.length_erase_of_mem ht
  have hpos := List.length_pos_of_mem ht
  unfold Phase.toDo Live.call
  simp only [hlength]
  omega

end Sound

/-! ## Phases -/

/-- The server after it has started its first query. -/
def started (pages : List (List Item)) : Backend :=
  { pages, queries := [(firstId, {})], calls := [.start], allocated := 1 }

namespace Sound

variable {pages : List (List Item)} {phrase : Query.Phrase} {m : Meeting}

theorem started (hrequests : m.requests = [.submit firstId phrase]) (hreplies : m.replies = [])
    (hinbox : m.inbox = []) (hbackend : m.backend = started pages) :
    Sound pages phrase [.submit firstId phrase] m { session := .init ⟨firstId, phrase⟩ } := by
  refine
    { told := ⟨[], Told.init⟩
      opens := fun r hr => List.mem_singleton.mp hr
      unattended := ⟨rfl, rfl⟩
      awaited := by rw [hrequests, hreplies]; exact .refl _
      errands := fun task ht => (List.not_mem_nil ht).elim
      kept := fun reply hreply => by rw [hreplies] at hreply; cases hreply
      asked := ?_
      timed := Or.inl rfl
      pager := Or.inl ⟨rfl, rfl⟩
      calm := rfl
      hosted := ?_ }
  · intro a
    rw [hrequests, hbackend]
    cases a <;> rfl
  · rw [hinbox, hbackend]
    exact ⟨{}, ⟨rfl, rfl, rfl⟩, rfl, Announced.init⟩

/-- The words of the query are accepted. -/
theorem accept (h : Sound pages phrase [.submit firstId phrase] m
    { session := .init ⟨firstId, phrase⟩ }) {before after : List Returned} {reply : Returned}
    (hm : m.replies = before ++ reply :: after) (hreply : reply.1 = .submit firstId phrase) :
    Sound pages phrase [] { m with replies := before ++ after }
      { session := .init ⟨firstId, phrase⟩ } := by
  refine
    { h with
      opens := fun r hr => (List.not_mem_nil hr).elim
      awaited := ?_
      kept := (h.kept_split hm).2 }
  refine awaited_erase (hm ▸ h.awaited) ?_
  rw [hreply]
  exact .refl _

end Sound

namespace Meeting

variable {base : Url} {pages : List (List Item)} {phrase : Query.Phrase} {m m' : Meeting}
  {es : List Happening} {p : Phase}

/-- What holds of a meeting as far as the session has come: its query is started, gets its words,
and is then live for ever. -/
def Fits (pages : List (List Item)) (phrase : Query.Phrase) (m : Meeting) : Phase → Prop
  | .starting => m.inbox = [] ∧
      (m.requests = [.start] ∧ m.replies = [] ∧ m.backend = { pages } ∨
        m.requests = [] ∧ m.replies = [⟨.start, .ok firstId⟩] ∧ m.backend = started pages)
  | .submitting id => id = firstId ∧
      Sound pages phrase [.submit firstId phrase] m { session := .init ⟨firstId, phrase⟩ }
  | .live l => Sound pages phrase [] m l
  | _ => False

/-- Only one answer is on its way. -/
theorem eq_of_lone {x y : Returned} {before after : List Returned}
    (h : [x] = before ++ y :: after) : y = x ∧ before ++ after = [] := by
  cases before with
  | nil =>
    cases h
    exact ⟨rfl, rfl⟩
  | cons first rest => simp at h

theorem CarriesAll.pair {x y : Happening} (h : m.CarriesAll [x, y] m') :
    ∃ between, m.Carries x between ∧ between.Carries y m' := by
  cases h with
  | cons hx hrest =>
    cases hrest with
    | cons hy hnil =>
      cases hnil
      exact ⟨_, hx, hy⟩

theorem CarriesAll.single {x : Happening} (h : m.CarriesAll [x] m') : m.Carries x m' := by
  cases h with
  | cons hx hnil =>
    cases hnil
    exact hx

theorem Fits.rephase {p : Phase} (h : m.Fits pages phrase p) (q : Phase) :
    ({ m with phase := q } : Meeting).Fits pages phrase p := by
  cases p with
  | starting => exact h
  | submitting id => exact ⟨h.1, h.2.rephase q⟩
  | live l => exact Sound.rephase h q
  | unstarted | finished _ | releasing _ | released _ => exact h

/-- The query is started. -/
theorem Fits.begin {id : Query.Id} (h : m.Fits pages phrase .starting)
    (hcarries : m.CarriesAll [.returned .start (.ok id), .called (.submit id phrase)] m') :
    m'.Fits pages phrase (.submitting id) ∧ m'.toDo (.submitting id) < m.toDo .starting := by
  obtain ⟨between, hreturned, hcalled⟩ := hcarries.pair
  cases hcalled
  cases hreturned with
  | returned _ _ hm =>
    obtain ⟨hinbox, ⟨_, hreplies, _⟩ | ⟨hrequests, hreplies, hbackend⟩⟩ := h
    · rw [hreplies] at hm
      simp at hm
    · rw [hreplies] at hm
      obtain ⟨heq, hrest⟩ := eq_of_lone hm
      cases heq
      refine ⟨⟨rfl, Sound.started ?_ hrest hinbox hbackend⟩, ?_⟩
      · show m.requests ++ _ = _
        rw [hrequests]
        rfl
      · unfold toDo Phase.toDo
        simp only [hreplies, hrest, List.length_append, List.length_singleton, List.length_nil]
        omega

/-- The query has its words. -/
theorem Fits.enliven {id : Query.Id} (h : m.Fits pages phrase (.submitting id))
    (hcarries : m.Carries (.returned (.submit id phrase) (.ok ())) m') :
    m'.Fits pages phrase (.live { session := .init ⟨id, phrase⟩ }) ∧
      m'.toDo (.live { session := .init ⟨id, phrase⟩ }) < m.toDo (.submitting id) := by
  obtain ⟨rfl, hsound⟩ := h
  cases hcarries with
  | returned _ _ hm =>
    refine ⟨hsound.accept hm rfl, ?_⟩
    have hlive : (Phase.live { session := .init ⟨firstId, phrase⟩ }).toDo = 16 := rfl
    have hopening : (Phase.submitting firstId).toDo = 21 := rfl
    unfold toDo
    simp only [hm, hlive, hopening, List.length_append, List.length_cons]
    omega

/-- Something that has arrived is taken in. -/
theorem Fits.take {l : Live} {i : Input} {started : List Task} (hp : m.phase = .live l)
    (h : m.Fits pages phrase (.live l)) (ho : l.Offers i)
    (hcarries : m.Carries (.took ⟨i, started⟩) m') :
    m'.Fits pages phrase (.live (l.take i)) ∧ m'.toDo (.live (l.take i)) < m.toDo (.live l) := by
  have hsound : Sound pages phrase [] m l := h
  cases hcarries with
  | @answered _ _ id task _ result hid hm =>
    rw [hp] at hid
    obtain rfl : firstId = id := hsound.query_eq.symm.trans (Option.some.inj hid)
    have hmade : task ∈ l.made := Live.offers_answer.mp ho
    refine ⟨hsound.settle_errand hm hmade, ?_⟩
    unfold toDo
    simp only [hm, hsound.toDo_answered hmade, List.length_append, List.length_cons]
    omega
  | @notified n rest _ hm =>
    refine ⟨hsound.hear_notified hm, ?_⟩
    have hless := hsound.toDo_notified n
    unfold toDo
    simp only [hm, List.length_cons]
    omega
  | deadlinePassed =>
    refine ⟨hsound.hear_deadline ho, ?_⟩
    have hless := hsound.toDo_deadline ho
    unfold toDo
    omega

/-- The session goes on, and has less to do then. -/
theorem Fits.session {p q : Phase} (hp : m.phase = p) (h : m.Fits pages phrase p)
    (hstep : p.Step phrase es q) (hcarries : m.CarriesAll es m') :
    m'.Fits pages phrase q ∧ m'.toDo q < m.toDo p := by
  cases hstep with
  | unstarted fault =>
    cases hcarries.single with
    | returned _ _ hm =>
      obtain ⟨_, ⟨_, hreplies, _⟩ | ⟨_, hreplies, _⟩⟩ := h
      · rw [hreplies] at hm
        simp at hm
      · rw [hreplies] at hm
        cases (eq_of_lone hm).1
  | started id => exact h.begin hcarries
  | refused id fault =>
    obtain ⟨rfl, hsound⟩ := h
    cases hcarries.single with
    | returned _ _ hm =>
      have hkept := (hsound.kept_split hm).1
      cases hkept
  | accepted id =>
    obtain ⟨between, hreturned, hpublished⟩ := hcarries.pair
    cases hpublished
    exact h.enliven hreturned
  | send l c => cases hcarries.single
  | leave l => cases hcarries.single
  | take i ho =>
    obtain ⟨between, htook, hpublished⟩ := hcarries.pair
    cases hpublished
    exact Fits.take hp h ho htook
  | @call l task ht =>
    have hsound : Sound pages phrase [] m l := h
    cases hcarries.single
    refine ⟨hsound.call ht, ?_⟩
    have hless := Sound.toDo_call ht
    unfold toDo
    simp only [List.length_append, List.length_singleton]
    omega
  | @close l hl hq =>
    have hsound : Sound pages phrase [] m l := h
    rw [hsound.unattended.1] at hl
    cases hl
  | release id => exact h.elim
  | released id result => exact h.elim

/-- The server takes a call in. -/
theorem Fits.serve (hbase : IsRoot base) (hcount : pages.length < UInt32.size)
    (hfinite : areFinite pages = true) {p : Phase} (h : m.Fits pages phrase p) {r : Request}
    (hr : r ∈ m.requests) : (m.serve base r).Fits pages phrase p := by
  cases p with
  | starting =>
    obtain ⟨hinbox, ⟨hrequests, hreplies, hbackend⟩ | ⟨hrequests, _, _⟩⟩ := h
    · rw [hrequests] at hr
      cases List.mem_singleton.mp hr
      have hstart : exchange base m.backend .start = (Session.started pages, .ok firstId) := by
        rw [hbackend]
        exact Service.Backend.exchange_start hbase pages
      rw [serve_eq hstart]
      refine ⟨?_, Or.inr ⟨?_, ?_, rfl⟩⟩
      · show m.inbox ++ [].drop _ = []
        rw [hinbox, List.drop_nil]
        rfl
      · show m.requests.erase _ = []
        rw [hrequests]
        rfl
      · exact congrArg (· ++ _) hreplies
    · rw [hrequests] at hr
      cases hr
  | submitting id => exact ⟨h.1, h.2.serve hbase hcount hfinite hr⟩
  | live l => exact Sound.serve h hbase hcount hfinite hr
  | unstarted | finished _ | releasing _ | released _ => exact h.elim

theorem Fits.complete {p : Phase} (h : m.Fits pages phrase p) {id : Query.Id}
    (hid : p.query? = some id) (htrain : m.backend.callCount .train = 0) :
    (m.relay (m.backend.completeCollection id)).Fits pages phrase p := by
  cases p with
  | starting => cases hid
  | submitting other =>
    obtain ⟨rfl, hsound⟩ := h
    cases hid
    exact ⟨rfl, hsound.collect htrain⟩
  | live l =>
    have hsound : Sound pages phrase [] m l := h
    obtain rfl : firstId = id := hsound.query_eq.symm.trans (Option.some.inj hid)
    exact hsound.collect htrain
  | unstarted | finished _ | releasing _ | released _ => exact h.elim

/-- What a move keeps, and that it takes something away. -/
theorem Fits.move (hbase : IsRoot base) (hcount : pages.length < UInt32.size)
    (hfinite : areFinite pages = true) (h : m.Fits pages phrase m.phase)
    (hmove : m.Moves base phrase m') :
    m'.Fits pages phrase m'.phase ∧ m'.toDo m'.phase < m.toDo m.phase := by
  cases hmove with
  | session hstep hcarries =>
    obtain ⟨hfits, hless⟩ := Fits.session rfl h hstep hcarries
    exact ⟨hfits.rephase _, hless⟩
  | serve hr =>
    rw [serve_phase]
    exact ⟨h.serve hbase hcount hfinite hr, toDo_serve hr _⟩

/-- **What holds of every meeting.** -/
theorem Reachable.fits (hbase : IsRoot base) (hcount : pages.length < UInt32.size)
    (hfinite : areFinite pages = true) (r : m.Reachable base pages phrase) :
    m.Fits pages phrase m.phase := by
  induction r with
  | start => exact ⟨rfl, Or.inl ⟨rfl, rfl, rfl⟩⟩
  | move r hmove ih => exact (ih.move hbase hcount hfinite hmove).1
  | complete r hid htrain ih =>
    rw [relay_phase]
    exact ih.complete hid htrain

/-- **No run of moves goes on for ever.** From every meeting the session and the server come to
rest, whichever way they take. -/
theorem Reachable.comes_to_rest (hbase : IsRoot base) (hcount : pages.length < UInt32.size)
    (hfinite : areFinite pages = true) (r : m.Reachable base pages phrase) :
    Acc (fun next m : Meeting => m.Moves base phrase next) m := by
  induction hn : m.toDo m.phase using Nat.strong_induction_on generalizing m with
  | h n ih =>
    refine Acc.intro m fun next hmove => ?_
    have hless := ((r.fits hbase hcount hfinite).move hbase hcount hfinite hmove).2
    exact ih _ (hn ▸ hless) (r.move hmove) rfl

/-! ## When nothing more can happen -/

theorem Moves.takes {l : Live} {i : Input} (hp : m.phase = .live l) (ho : l.Offers i)
    (hcarries : ∀ started, m.Carries (.took ⟨i, started⟩) m') :
    m.Moves base phrase { m' with phase := .live (l.take i) } := by
  have hstep : m.phase.Step phrase _ _ := hp ▸ Phase.Step.take i ho
  exact .session hstep (.cons (hcarries _) (.cons (.published _) (.nil _)))

theorem requests_of_stuck (hstuck : ∀ m', ¬ m.Moves base phrase m') : m.requests = [] :=
  List.eq_nil_iff_forall_not_mem.mpr fun _ hr => hstuck _ (.serve hr)

/-- A session that opens can go on. -/
theorem Fits.live (h : m.Fits pages phrase m.phase) (hstuck : ∀ m', ¬ m.Moves base phrase m') :
    ∃ l, m.phase = .live l ∧ Sound pages phrase [] m l := by
  have hserved := requests_of_stuck hstuck
  cases hp : m.phase with
  | starting =>
    rw [hp] at h
    obtain ⟨_, ⟨hrequests, _⟩ | ⟨_, hreplies, _⟩⟩ := h
    · rw [hserved] at hrequests
      cases hrequests
    · have hstep : m.phase.Step phrase _ _ := hp ▸ Phase.Step.started firstId
      exact absurd (.session hstep (.cons (.returned [] [] hreplies) (.cons (.called _) (.nil _))))
        (hstuck _)
  | submitting id =>
    rw [hp] at h
    obtain ⟨rfl, hsound⟩ := h
    have hawaited := hsound.awaited
    rw [hserved] at hawaited
    obtain ⟨⟨r, result⟩, hreply, hr⟩ := List.mem_map.mp
      (hawaited.mem_iff.mp (List.mem_append_left _ (List.mem_singleton.mpr rfl)))
    cases hr
    have hkept := hsound.kept _ hreply
    cases hkept with
    | submit =>
      obtain ⟨before, after, hm⟩ := List.append_of_mem hreply
      have hstep : m.phase.Step phrase _ _ := hp ▸ Phase.Step.accepted firstId
      exact absurd (.session hstep (.cons (.returned _ _ hm) (.cons (.published _) (.nil _))))
        (hstuck _)
  | live l =>
    rw [hp] at h
    exact ⟨l, rfl, h⟩
  | unstarted | finished _ | releasing _ | released _ =>
    rw [hp] at h
    exact h.elim

end Meeting

/-- A live session of which nothing is outstanding. -/
structure Idle (m : Meeting) (l : Live) : Prop where
  tasks : l.session.tasks = []
  unmade : l.unmade = []
  requests : m.requests = []
  inbox : m.inbox = []
  timer : l.session.lifecycle.timerArmed = false

/-- Of a live session that can do nothing, nothing is outstanding. -/
theorem Sound.idle {base : Url} {pages : List (List Item)} {phrase : Query.Phrase} {m : Meeting}
    {l : Live} (h : Sound pages phrase [] m l) (hp : m.phase = .live l)
    (hstuck : ∀ m', ¬ m.Moves base phrase m') : Idle m l := by
  obtain ⟨body, htold⟩ := h.told
  have hserved := Meeting.requests_of_stuck hstuck
  have hcalled : l.unmade = [] := by
    refine List.eq_nil_iff_forall_not_mem.mpr fun task ht => ?_
    have hstep : m.phase.Step phrase _ _ := hp ▸ Phase.Step.call ht
    exact hstuck _ (.session hstep (.cons (.called _) (.nil _)))
  have hheard : m.inbox = [] := by
    cases hinbox : m.inbox with
    | nil => rfl
    | cons n rest =>
      exact absurd (.takes (i := .notified n) hp trivial fun _ => .notified hinbox) (hstuck _)
  have htimer : l.session.lifecycle.timerArmed = false := by
    refine Bool.eq_false_iff.mpr fun harmed => ?_
    exact hstuck _ (.takes (i := .deadlinePassed) hp harmed fun _ => .deadlinePassed)
  have hmade : l.made = [] := by
    refine List.eq_nil_iff_forall_not_mem.mpr fun task ht => ?_
    have hawaited := h.awaited
    rw [hserved] at hawaited
    obtain ⟨⟨r, result⟩, hreply, hr⟩ := List.mem_map.mp
      (hawaited.mem_iff.mp (List.mem_map_of_mem ht))
    obtain rfl : r = task.request firstId := hr
    obtain ⟨before, after, hm⟩ := List.append_of_mem hreply
    have hid : m.phase.query? = some firstId := by rw [hp]; exact congrArg some h.query_eq
    exact hstuck _ (.takes hp (Live.offers_answer.mpr ht) fun _ => .answered _ _ hid hm)
  have htasks := htold.tasks
  rw [hcalled, hmade] at htasks
  exact ⟨htasks.eq_nil, hcalled, hserved, hheard, htimer⟩

/-- Conversely, nothing can happen where nothing is outstanding. -/
theorem Meeting.not_moves_of_quiet {base : Url} {phrase : Query.Phrase} {m m' : Meeting} {l : Live}
    (hp : m.phase = .live l) (hleft : l.left = false) (hunmade : l.unmade = [])
    (htimer : l.session.lifecycle.timerArmed = false) (hrequests : m.requests = [])
    (hreplies : m.replies = []) (hinbox : m.inbox = []) : ¬ m.Moves base phrase m' := by
  intro h
  cases h with
  | serve hr =>
    rw [hrequests] at hr
    cases hr
  | session hstep hcarries =>
    rw [hp] at hstep
    cases hstep with
    | send _ c => cases hcarries.single
    | leave => cases hcarries.single
    | take i ho =>
      obtain ⟨between, htook, _⟩ := hcarries.pair
      cases htook with
      | answered _ _ _ hm =>
        rw [hreplies] at hm
        simp at hm
      | notified hm =>
        rw [hinbox] at hm
        cases hm
      | deadlinePassed =>
        have harmed : l.session.lifecycle.timerArmed = true := ho
        rw [htimer] at harmed
        cases harmed
    | call ht =>
      rw [hunmade] at ht
      cases ht
    | close hl _ =>
      rw [hleft] at hl
      cases hl

/-! ## The first page -/

/-- What a session and the server have come to where they agree: each has done its part once, and
the session shows the first page. -/
structure Met (pages : List (List Item)) (m : Meeting) (l : Live) : Prop where
  train : m.backend.callCount .train = 1
  rank : m.backend.callCount .rank = 1
  page : m.backend.callCount .page = 1
  stage : l.session.view.stage = .ranked
  currentPage : l.session.view.currentPage = 1
  items : l.session.view.items.map (·.path) = (pages.getD 0 []).map (·.path)
  lastError : l.session.view.lastError = none
  pendingUpdates : l.session.view.pendingUpdates = 0

namespace Sound

variable {pages : List (List Item)} {phrase : Query.Phrase} {m : Meeting} {l : Live}

/-- What was asked for has been taken in by the server. -/
theorem callCount_of_idle (h : Sound pages phrase [] m l) (hidle : Idle m l) (a : Action) :
    m.backend.callCount a.request.kind = (l.session.lifecycle.fired a).toNat := by
  have hasked := h.asked a
  rw [hidle.unmade, hidle.requests] at hasked
  simpa using hasked

/-- Training was asked for, hence ranking, hence the first page. -/
theorem called_of_idle (h : Sound pages phrase [] m l) (hidle : Idle m l) :
    m.backend.callCount .train = 1 ∧ m.backend.callCount .rank = 1 ∧
      l.session.lifecycle.firstPageFired.toNat = 1 := by
  obtain ⟨q, _, _, hannounced⟩ := h.hosted
  have htraining : l.session.lifecycle.trainingFired = true := by
    rcases h.timed with hfresh | ⟨_, hfired⟩
    · have htimer := hidle.timer
      rw [hfresh] at htimer
      cases htimer
    · exact hfired
  have htrain : m.backend.callCount .train = 1 :=
    (h.callCount_of_idle hidle .beginTraining).trans (congrArg Bool.toNat htraining)
  have htrained := hannounced.trained
  rw [hidle.inbox, htrain, List.count_nil, Nat.zero_add] at htrained
  have hrank : m.backend.callCount .rank = 1 :=
    (h.callCount_of_idle hidle .beginRanking).trans htrained
  have hranked := hannounced.ranked
  rw [hidle.inbox, hrank, List.count_nil, Nat.zero_add] at hranked
  exact ⟨htrain, hrank, hranked⟩

theorem stage_of_idle (h : Sound pages phrase [] m l) (hidle : Idle m l) :
    l.session.lifecycle.stage = .ranked := by
  obtain ⟨q, _, _, hannounced⟩ := h.hosted
  obtain ⟨_, hrank, _⟩ := h.called_of_idle hidle
  have hleads := hannounced.leads
  rw [hidle.inbox] at hleads
  exact hleads.trans (hannounced.last (by omega))

/-- No fetch is outstanding, so that the first page is there. -/
theorem loaded_of_idle (h : Sound pages phrase [] m l) (hidle : Idle m l) :
    l.session.pager.currentPage = 1 ∧
      l.session.pager.items.map (·.path) = firstPaths pages := by
  obtain ⟨body, htold⟩ := h.told
  obtain ⟨_, _, hpage⟩ := h.called_of_idle hidle
  have hloading : ¬ l.session.pager.loading = true := by
    intro hloading
    obtain ⟨page, hfetch⟩ := (Run.accounted htold.run).loading_iff.mp hloading
    rw [hidle.tasks] at hfetch
    cases hfetch
  rcases h.pager with ⟨hopen, _⟩ | ⟨_, hopens | ⟨_, hloaded⟩⟩
  · rw [hopen] at hpage
    cases hpage
  · rw [hopens] at hloading
    exact absurd rfl hloading
  · exact hloaded

/-- Where nothing is outstanding, the session and the server agree. -/
theorem met (h : Sound pages phrase [] m l) (hidle : Idle m l) : Met pages m l := by
  obtain ⟨body, htold⟩ := h.told
  obtain ⟨htrain, hrank, hpage⟩ := h.called_of_idle hidle
  obtain ⟨hcurrent, hitems⟩ := h.loaded_of_idle hidle
  have hshown := Run.upToDate htold.run
  refine
    { train := htrain
      rank := hrank
      page := (h.callCount_of_idle hidle .fetchFirstPage).trans hpage
      stage := ?_
      currentPage := by rw [hshown.view]; exact hcurrent
      items := by rw [hshown.view]; exact hitems
      lastError := h.calm
      pendingUpdates := ?_ }
  · rw [hshown.view, ← h.stage_of_idle hidle, hshown.stage]
    rfl
  · rw [(Run.published htold.run).1, (Run.accounted htold.run).pending, hidle.tasks]
    rfl

end Sound

/-- **A session and the server in memory meet at the first page.** However their steps, the calls,
the answers and the notifications fall, and whether data collection finishes or the deadline passes:
where nothing more can happen, training, ranking and the first page have each been called for once,
and the session is ranked and shows the paths of that page in order, without an error and with no
mark outstanding. -/
theorem Meeting.Reachable.meets_at_first_page {base : Url} {pages : List (List Item)}
    {phrase : Query.Phrase} {m : Meeting} (hbase : IsRoot base)
    (hcount : pages.length < UInt32.size) (hfinite : areFinite pages = true)
    (r : m.Reachable base pages phrase) (hstuck : ∀ m', ¬ m.Moves base phrase m') :
    ∃ l, m.phase = .live l ∧ Met pages m l := by
  obtain ⟨l, hp, hsound⟩ := (r.fits hbase hcount hfinite).live hstuck
  exact ⟨l, hp, hsound.met (hsound.idle hp hstuck)⟩

/-! ## A meeting -/

namespace Meeting.Reachable

variable {base : Url} {pages : List (List Item)} {phrase : Query.Phrase} {m m' : Meeting} {l : Live}

theorem serves (r : m.Reachable base pages phrase) {q : Request} (hq : q ∈ m.requests) {b : Backend}
    {result : Except Service.Fault q.Reply} (he : exchange base m.backend q = (b, result)) :
    ({ m.relay b with
      requests := m.requests.erase q
      replies := m.replies ++ [⟨q, result⟩] } : Meeting).Reachable base pages phrase :=
  serve_eq he ▸ r.move (.serve hq)

theorem serves_page (r : m.Reachable base pages phrase) (hbase : IsRoot base)
    (hcount : pages.length < UInt32.size) (hfinite : areFinite pages = true) {h : Hosted}
    (hb : Hosts pages h m.backend) (hstage : h.stage = .ranked) (hflags : h.flags = [])
    (hq : .page firstId 1 ∈ m.requests) :
    ∃ page : Page, ({ m.relay { m.backend with calls := .page :: m.backend.calls } with
      requests := m.requests.erase (.page firstId 1)
      replies := m.replies ++ [⟨.page firstId 1, .ok page⟩] } : Meeting).Reachable base pages
        phrase := by
  obtain ⟨page, hpage, _⟩ :=
    Service.Backend.exchange_firstPage hbase hb hstage hflags hcount hfinite
  exact ⟨page, r.serves hq hpage⟩

theorem calls (r : m.Reachable base pages phrase) {task : Task} (hp : m.phase = .live l)
    (ht : task ∈ l.unmade) :
    ({ m with
      requests := m.requests ++ [task.request l.session.query]
      phase := .live (l.call task) } : Meeting).Reachable base pages phrase := by
  have hstep : m.phase.Step phrase _ _ := hp ▸ Phase.Step.call ht
  exact r.move (.session hstep (.cons (.called _) (.nil _)))

theorem takes (r : m.Reachable base pages phrase) {i : Input} (hp : m.phase = .live l)
    (ho : l.Offers i) (hcarries : ∀ started, m.Carries (.took ⟨i, started⟩) m') :
    ({ m' with phase := .live (l.take i) } : Meeting).Reachable base pages phrase :=
  r.move (.takes hp ho hcarries)

theorem hears (r : m.Reachable base pages phrase) {n : Notification} {rest : List Notification}
    (hp : m.phase = .live l) (hinbox : m.inbox = n :: rest) :
    ({ m with inbox := rest, phase := .live (l.take (.notified n)) } : Meeting).Reachable base pages
      phrase :=
  r.takes (i := .notified n) hp trivial fun _ => .notified hinbox

theorem learns (r : m.Reachable base pages phrase) (task : Task) (before : List Returned)
    {after : List Returned} {id : Query.Id} {result : Except Service.Fault (task.request id).Reply}
    (hp : m.phase = .live l) (hid : l.session.query = id) (ht : task ∈ l.made)
    (hm : m.replies = before ++ ⟨task.request id, result⟩ :: after) :
    ({ m with
      replies := before ++ after
      phase := .live (l.take (.answered (task.answer id result))) } : Meeting).Reachable base pages
        phrase := by
  have hquery : m.phase.query? = some id := by rw [hp]; exact congrArg some hid
  exact r.takes hp (Live.offers_answer.mpr ht) fun _ => .answered _ _ hquery hm

end Meeting.Reachable

/-- A server on one's own machine. -/
def sampleBase : Url :=
  { scheme := "http"
    authority := some { host := "127.0.0.1", port := some 8080 }
    segments := [""] }

/-- A ranking of one page with one item. -/
def sampleRanking : List (List Item) := [[{ path := "a.jpg", score := .zero }]]

/-- The deadline passes while data collection finishes, and the answers come back in another order
than that of the calls. -/
theorem Meeting.Reachable.meets_at_first_page_hurried :
    ∃ m, m.Reachable sampleBase sampleRanking sampleRoute.phrase ∧
      (∀ m', ¬ m.Moves sampleBase sampleRoute.phrase m') ∧
      ∃ l, m.phase = .live l ∧ Met sampleRanking m l := by
  have hbase : IsRoot sampleBase := ⟨rfl, rfl, rfl⟩
  have hcount : sampleRanking.length < UInt32.size := by decide
  have hfinite : areFinite sampleRanking = true := by decide +kernel
  have begun : (Meeting.start sampleRanking).Reachable sampleBase _ sampleRoute.phrase := .start
  have started := (begun.serves (List.mem_singleton.mpr rfl)
    (Service.Backend.exchange_start hbase _)).move (.session (.started firstId)
      (.cons (.returned [] [] rfl) (.cons (.called _) (.nil _))))
  have opened := (started.serves (List.mem_singleton.mpr rfl)
    (Service.Backend.exchange_submit hbase ⟨rfl, rfl, rfl⟩ _)).move (.session (.accepted firstId)
      (.cons (.returned [] [] rfl) (.cons (.published _) (.nil _))))
  have hurried := (opened.complete rfl rfl).takes (i := .deadlinePassed) rfl rfl
    fun _ => .deadlinePassed
  have trained := (hurried.calls rfl (List.mem_singleton.mpr rfl)).serves
    (List.mem_singleton.mpr rfl) (Service.Backend.exchange_train hbase ⟨rfl, rfl, rfl⟩)
  have collected := (((trained.hears rfl rfl).hears rfl rfl).hears rfl rfl).hears rfl rfl
  have ranked := (((collected.hears rfl rfl).hears rfl rfl).calls rfl
    (List.mem_singleton.mpr rfl)).serves (List.mem_singleton.mpr rfl)
      (Service.Backend.exchange_rank hbase ⟨rfl, rfl, rfl⟩)
  obtain ⟨page, served⟩ := (((ranked.hears rfl rfl).hears rfl rfl).calls rfl
    (List.mem_singleton.mpr rfl)).serves_page hbase hcount hfinite ⟨rfl, rfl, rfl⟩ rfl rfl
      (List.mem_singleton.mpr rfl)
  have loaded := served.learns (.fetch 1) [⟨.train firstId, .ok ()⟩, ⟨.rank firstId, .ok ()⟩]
    rfl rfl (List.mem_of_elem_eq_true rfl) rfl
  have settled := (loaded.learns .rank [⟨.train firstId, .ok ()⟩] rfl rfl
    (List.mem_of_elem_eq_true rfl) rfl).learns .train [] rfl rfl (List.mem_singleton.mpr rfl) rfl
  refine ⟨_, settled, ?hstuck, settled.meets_at_first_page hbase hcount hfinite ?hstuck⟩
  exact fun m' => not_moves_of_quiet rfl rfl rfl rfl rfl rfl rfl

end RankedSearch.Session
