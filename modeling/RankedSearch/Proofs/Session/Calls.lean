import Mathlib.Data.List.Pairwise
import RankedSearch.Proofs.Session.Course

/-! # The calls of a session are accounted for

Whatever the order in which things happen and whatever the service answers, a session starts one
query, gives it its words once, trains and ranks it at most once, and releases it once when all else
is over. The calls between the submission and the release are those of tasks, so that the latches
count them (`Told.once`); that the release comes last is read off the phases (`Course.ordered`). -/
namespace RankedSearch.Session

open RankedSearch.Service (CallKind Request)

/-- The kinds of the calls that were made. -/
def kinds (log : List Happening) : List CallKind := (calls log).map Request.kind

/-! ## The calls of tasks -/

/-- Calls that a session makes while it runs. -/
structure OfTasks (id : Query.Id) (rs : List Request) : Prop where
  tasks : ∀ r ∈ rs, ∃ task : Task, r = task.request id
  once : ∀ (a : Action) (task : Task), a.call? = some task → rs.count (task.request id) ≤ 1

theorem Told.ofTasks {phrase : Query.Phrase} {id : Query.Id} {body : List Happening} {l : Live}
    (h : Told phrase id body l) : OfTasks id (Session.calls body) where
  tasks := h.calls
  once a task hc := by
    have hlatch := h.once a task hc
    have hle : (l.session.lifecycle.fired a).toNat ≤ 1 := Bool.toNat_le _
    omega

theorem Task.request_kind (task : Task) (id : Query.Id) :
    (task.request id).kind ∉ [CallKind.start, .submit, .release] := by
  cases task <;> simp [request, Request.kind]

namespace OfTasks

variable {id : Query.Id} {rs : List Request}

theorem nil : OfTasks id [] := ⟨by simp, by simp⟩

theorem query?_eq (h : OfTasks id rs) {r : Request} (hr : r ∈ rs) : r.query? = some id := by
  obtain ⟨task, rfl⟩ := h.tasks r hr
  exact task.request_query? id

/-- No task starts, submits or releases a query. -/
theorem count_frame (h : OfTasks id rs) {k : CallKind}
    (hk : k ∈ [CallKind.start, .submit, .release]) : (rs.map Request.kind).count k = 0 := by
  refine List.count_eq_zero_of_not_mem fun hm => ?_
  obtain ⟨r, hr, rfl⟩ := List.mem_map.mp hm
  obtain ⟨task, rfl⟩ := h.tasks r hr
  exact task.request_kind id hk

/-- The calls for training and for ranking are known by their kind. -/
theorem count_call (h : OfTasks id rs) {a : Action} {task : Task} (hc : a.call? = some task) :
    (rs.map Request.kind).count (task.request id).kind ≤ 1 := by
  have hkind : ∀ r ∈ rs, (r.kind == (task.request id).kind) = (r == task.request id) := by
    intro r hr
    obtain ⟨other, rfl⟩ := h.tasks r hr
    rw [Bool.eq_iff_iff, beq_iff_eq, beq_iff_eq]
    cases a <;> cases hc <;> cases other <;> simp [Task.request, Request.kind]
  have hcount :
      (rs.map Request.kind).count (task.request id).kind = rs.count (task.request id) := by
    rw [List.count, List.countP_map]
    exact List.countP_congr fun r hr => by rw [Function.comp_apply, hkind r hr]
  rw [hcount]
  exact h.once a task hc

end OfTasks

/-! ## The calls of a phase -/

variable {phrase : Query.Phrase} {log : List Happening} {p : Phase} {id : Query.Id}

theorem Front.calls_eq (h : Front phrase id log) :
    ∃ rs, OfTasks id rs ∧ calls log = .start :: .submit id phrase :: rs := by
  cases h with
  | submitting => exact ⟨[], .nil, rfl⟩
  | live h => exact ⟨_, h.ofTasks, by simp [opened, submitted, Happening.call?]⟩
  | ended h =>
    cases h with
    | refused fault => exact ⟨[], .nil, rfl⟩
    | closed h hq => exact ⟨_, h.ofTasks, by simp [opened, submitted, Happening.call?]⟩

/-- A session whose query is not known has asked for one. -/
theorem Course.calls_of_query?_none (c : Course phrase log p) (hp : p.query? = none) :
    calls log = [.start] := by
  have h := c.reads
  cases p with
  | starting => cases h; rfl
  | unstarted => obtain ⟨fault, rfl⟩ := h; rfl
  | submitting _ | live _ | finished _ | releasing _ | released _ => cases hp

/-- A query is given its words at once; then come the calls of tasks, and then the release. -/
theorem Course.calls_of_query? (c : Course phrase log p) (hp : p.query? = some id) :
    ∃ rs, OfTasks id rs ∧
      calls log = .start :: .submit id phrase :: (rs ++ p.release?.toList) := by
  obtain ⟨front, tail, rfl, hfront, htail, _⟩ := c.split hp
  obtain ⟨rs, hrs, hc⟩ := hfront.calls_eq
  refine ⟨rs, hrs, ?_⟩
  rw [calls_append, hc, htail.calls]
  rfl

/-! ## The order of what happens -/

namespace Happening

/-- The query is being released. -/
def Releases (h : Happening) : Prop := ∃ id, h = .called (.release id)

/-- The last view is published. -/
def Closes (h : Happening) : Prop := ∃ v, h = .published v ∧ v.closed = true

/-- What may happen after what: a release is only waited for, and after the last view the release is
the only call. -/
def Before (x y : Happening) : Prop :=
  (x.Releases → ∃ id result, y = .returned (.release id) result) ∧
    (x.Closes → ∀ r, y = .called r → r.kind = .release)

/-- Neither the last view nor the release. -/
def Quiet (h : Happening) : Prop := ¬ h.Releases ∧ ¬ h.Closes

theorem Quiet.before {x : Happening} (h : x.Quiet) (y : Happening) : x.Before y :=
  ⟨fun hr => absurd hr h.1, fun hc => absurd hc h.2⟩

end Happening

/-- Nothing is released or closed in a session that runs. -/
theorem Told.quiet {body : List Happening} {l : Live} (h : Told phrase id body l) :
    ∀ x ∈ body, x.Quiet := by
  intro x hx
  refine ⟨?_, ?_⟩
  · rintro ⟨other, rfl⟩
    obtain ⟨task, ht⟩ := h.calls (.release other) (List.mem_filterMap.mpr ⟨_, hx, rfl⟩)
    cases task <;> cases ht
  · rintro ⟨v, rfl, hv⟩
    have hopen := h.views v (List.mem_filterMap.mpr ⟨_, hx, rfl⟩)
    rw [hv] at hopen
    cases hopen

theorem opened_quiet (phrase : Query.Phrase) (id : Query.Id) : ∀ x ∈ opened phrase id, x.Quiet := by
  simp [opened, submitted, Happening.Quiet, Happening.Releases, Happening.Closes, Running.init]

/-- Up to its end a session neither closes nor releases anything. -/
theorem Course.quiet (c : Course phrase log p) (hp : p.ended = false) : ∀ x ∈ log, x.Quiet := by
  have h := c.reads
  cases p with
  | starting => cases h; simp [Happening.Quiet, Happening.Releases, Happening.Closes]
  | unstarted =>
    obtain ⟨fault, rfl⟩ := h
    simp [Happening.Quiet, Happening.Releases, Happening.Closes]
  | submitting id =>
    cases h
    simp [submitted, Happening.Quiet, Happening.Releases, Happening.Closes]
  | live l =>
    obtain ⟨id, body, rfl, h⟩ := h
    intro x hx
    rcases List.mem_append.mp hx with hx | hx
    · exact opened_quiet phrase id x hx
    · exact h.quiet x hx
  | finished _ | releasing _ | released _ => cases hp

/-- A session that is over has not released its query yet. -/
theorem Course.not_releases (c : Course phrase log (.finished id)) : ∀ x ∈ log, ¬ x.Releases := by
  rintro x hx ⟨other, rfl⟩
  obtain ⟨rs, hrs, hc⟩ := c.calls_of_query? rfl
  have hm : Service.Request.release other ∈ calls log := List.mem_filterMap.mpr ⟨_, hx, rfl⟩
  simp only [hc, Phase.release?, Option.toList, List.append_nil, List.mem_cons, reduceCtorEq,
    false_or] at hm
  obtain ⟨task, ht⟩ := hrs.tasks _ hm
  cases task <;> cases ht

theorem Phase.Step.pairwise {es : List Happening} {q : Phase} (h : p.Step phrase es q) :
    es.Pairwise Happening.Before := by
  cases h <;> simp [Happening.Before, Happening.Releases, Happening.Closes]

/-- What happens, happens in order. -/
theorem Course.ordered (c : Course phrase log p) : log.Pairwise Happening.Before := by
  induction c with
  | start => exact List.pairwise_singleton _ _
  | step c h ih =>
    refine List.pairwise_append.mpr ⟨ih, h.pairwise, fun x hx y hy => ?_⟩
    cases h with
    | release id =>
      cases List.mem_singleton.mp hy
      refine ⟨fun hr => absurd hr (c.not_releases x hx), fun _ r he => ?_⟩
      cases he
      rfl
    | released id result =>
      cases List.mem_singleton.mp hy
      exact ⟨fun _ => ⟨id, result, rfl⟩, fun _ r he => by cases he⟩
    | unstarted | started | refused | accepted | send | leave | take | call | close =>
      exact (c.quiet rfl x hx).before y

/-! ## What was returned -/

/-- A session is over because it has published its last view or because its words were refused. -/
theorem Ended.cause (h : Ended phrase id log) :
    ∃ x ∈ log, x.Closes ∨ (∃ fault, x = .returned (.submit id phrase) (.error fault)) ∧
      .returned (.submit id phrase) (.ok ()) ∉ log := by
  cases h with
  | refused fault =>
    refine ⟨_, List.mem_concat_self, Or.inr ⟨⟨fault, rfl⟩, ?_⟩⟩
    simp [submitted]
  | closed h hq => exact ⟨_, List.mem_concat_self, Or.inl ⟨_, rfl, rfl⟩⟩

theorem Course.cause (c : Course phrase log p) (hp : p.query? = some id) (he : p.ended = true) :
    ∃ x ∈ log, x.Closes ∨ (∃ fault, x = .returned (.submit id phrase) (.error fault)) ∧
      .returned (.submit id phrase) (.ok ()) ∉ log := by
  obtain ⟨front, tail, rfl, _, htail, hended⟩ := c.split hp
  obtain ⟨x, hx, hcause⟩ := (hended he).cause
  refine ⟨x, List.mem_append_left _ hx, hcause.imp_right fun ⟨hrefused, hnot⟩ => ⟨hrefused, ?_⟩⟩
  rw [List.mem_append, not_or]
  exact ⟨hnot, fun hm => by cases htail.returned _ _ hm⟩

theorem reply_start_inj {a b : Query.Id} :
    (Except.ok a : Except Service.Fault (Request.Reply .start)) = .ok b ↔ a = b :=
  ⟨fun h => by cases h; rfl, fun h => by rw [h]⟩

theorem Front.started_iff (h : Front phrase id log) (other : Query.Id) :
    .returned .start (.ok other) ∈ log ↔ other = id := by
  cases h with
  | submitting => simp [submitted, reply_start_inj]
  | live h => simp [opened, submitted, h.framed, reply_start_inj]
  | ended h =>
    cases h with
    | refused fault => simp [submitted, reply_start_inj]
    | closed h hq => simp [opened, submitted, h.framed, reply_start_inj]

theorem Course.started_iff (c : Course phrase log p) (other : Query.Id) :
    .returned .start (.ok other) ∈ log ↔ p.query? = some other := by
  cases hp : p.query? with
  | none =>
    have h := c.reads
    cases p with
    | starting => cases h; simp
    | unstarted => obtain ⟨fault, rfl⟩ := h; simp
    | submitting _ | live _ | finished _ | releasing _ | released _ => cases hp
  | some id =>
    obtain ⟨front, tail, rfl, hfront, htail, _⟩ := c.split hp
    rw [List.mem_append, hfront.started_iff, Option.some.injEq, eq_comm]
    exact or_iff_left fun hm => by cases htail.returned _ _ hm

theorem Front.calls_of_refused (h : Front phrase id log) {fault : Service.Fault}
    (hf : .returned (.submit id phrase) (.error fault) ∈ log) :
    calls log = [.start, .submit id phrase] := by
  cases h with
  | submitting => simp [submitted] at hf
  | live h => simp [opened, submitted, h.framed] at hf
  | ended h =>
    cases h with
    | refused => rfl
    | closed h hq => simp [opened, submitted, h.framed] at hf

/-- Nothing is asked of a query that did not take its words, but its release. -/
theorem Course.calls_of_refused (c : Course phrase log p) (hp : p.query? = some id)
    {fault : Service.Fault} (hf : .returned (.submit id phrase) (.error fault) ∈ log) :
    calls log = .start :: .submit id phrase :: p.release?.toList := by
  obtain ⟨front, tail, rfl, hfront, htail, _⟩ := c.split hp
  have hrefused : .returned (.submit id phrase) (.error fault) ∈ front :=
    (List.mem_append.mp hf).resolve_right fun hm => by cases htail.returned _ _ hm
  rw [calls_append, hfront.calls_of_refused hrefused, htail.calls]
  rfl

theorem Front.submitted_prefix (h : Front phrase id log) : submitted phrase id <+: log := by
  cases h with
  | submitting => exact List.prefix_rfl
  | live h => simp [opened, List.append_assoc]
  | ended h =>
    cases h with
    | refused fault => exact List.prefix_append _ _
    | closed h hq => simp [opened, List.append_assoc]

theorem Course.submitted_prefix (c : Course phrase log p) (hp : p.query? = some id) :
    submitted phrase id <+: log := by
  obtain ⟨front, tail, rfl, hfront, _⟩ := c.split hp
  exact hfront.submitted_prefix.trans (List.prefix_append _ _)

/-! ## Every call -/

/-- What the log of a session says of its calls, once its query was started. -/
structure Ledger (phrase : Query.Phrase) (id : Query.Id) (log : List Happening) : Prop where
  /-- The words are given directly after the start, -/
  submitted : submitted phrase id <+: log
  /-- and never again. -/
  submit_once : (kinds log).count .submit = 1
  about : ∀ r ∈ calls log, r ≠ .start → r.query? = some id
  train_once : (kinds log).count .train ≤ 1
  rank_once : (kinds log).count .rank ≤ 1
  release_once : (kinds log).count .release ≤ 1
  /-- If the words are refused, only the release follows. -/
  refused : ∀ fault, .returned (.submit id phrase) (.error fault) ∈ log →
    ∀ r ∈ calls log, r = .start ∨ r = .submit id phrase ∨ r = .release id
  /-- After the last view, only the release follows. -/
  closed : ∀ before v after, log = before ++ .published v :: after → v.closed = true →
    ∀ r ∈ calls after, r = .release id
  /-- The release is the last call, and what ends the session comes before it. -/
  released : ∀ before after, log = before ++ .called (.release id) :: after →
    calls after = [] ∧
      ((∃ v ∈ views before, v.closed = true) ∨
        (∃ fault, .returned (.submit id phrase) (.error fault) ∈ before) ∧
          .returned (.submit id phrase) (.ok ()) ∉ log)

/-- Apart from the calls of tasks each kind is called as often as the phase says. -/
theorem Course.count_kinds (c : Course phrase log p) (hp : p.query? = some id) :
    ∃ rs, OfTasks id rs ∧ ∀ k, (kinds log).count k =
      [CallKind.start, .submit].count k + (rs.map Request.kind).count k +
        (p.release?.toList.map Request.kind).count k := by
  obtain ⟨rs, hrs, hc⟩ := c.calls_of_query? hp
  refine ⟨rs, hrs, fun k => ?_⟩
  have hkinds : kinds log =
      [CallKind.start, .submit] ++ rs.map Request.kind ++ p.release?.toList.map Request.kind := by
    simp [kinds, hc, Request.kind]
  rw [hkinds, List.count_append, List.count_append]

theorem Phase.release?_eq (hp : p.query? = some id) :
    p.release? = if p.release?.isSome then some (.release id) else none := by
  cases p <;> simp_all [query?, release?]

theorem Course.about (c : Course phrase log p) (hp : p.query? = some id) {r : Request}
    (hr : r ∈ calls log) (hne : r ≠ .start) : r.query? = some id := by
  obtain ⟨rs, hrs, hc⟩ := c.calls_of_query? hp
  rw [hc, p.release?_eq hp] at hr
  rcases List.mem_cons.mp hr with rfl | hr
  · exact absurd rfl hne
  rcases List.mem_cons.mp hr with rfl | hr
  · rfl
  rcases List.mem_append.mp hr with hr | hr
  · exact hrs.query?_eq hr
  · split at hr
    · cases List.mem_singleton.mp hr; rfl
    · cases hr

/-- What comes after the release is only its return. -/
theorem Course.after_release (c : Course phrase log p) {before after : List Happening}
    (hs : log = before ++ .called (.release id) :: after) {y : Happening} (hy : y ∈ after) :
    ∃ other result, y = .returned (.release other) result := by
  have hordered := c.ordered
  rw [hs, List.pairwise_append, List.pairwise_cons] at hordered
  exact (hordered.2.1.1 y hy).1 ⟨id, rfl⟩

/-- After the last view no call begins but the release. -/
theorem Course.after_close (c : Course phrase log p) (hp : p.query? = some id)
    {before after : List Happening} {v : View} (hs : log = before ++ .published v :: after)
    (hv : v.closed = true) : ∀ r ∈ calls after, r = .release id := by
  intro r hr
  obtain ⟨y, hy, hcall⟩ := List.mem_filterMap.mp hr
  have hordered := c.ordered
  rw [hs, List.pairwise_append, List.pairwise_cons] at hordered
  have hkind : r.kind = .release := by
    cases y <;> cases hcall
    exact (hordered.2.1.1 _ hy).2 ⟨v, rfl, hv⟩ r rfl
  have hlog : r ∈ calls log := by
    rw [hs]
    simp only [calls_append, calls_cons, List.mem_append]
    exact Or.inr (Or.inr hr)
  have habout := c.about hp hlog (by rintro rfl; cases hkind)
  cases r <;> cases hkind
  cases habout
  rfl

/-- What ends a session comes before its release. -/
theorem Course.before_release (c : Course phrase log p) (hp : p.query? = some id)
    {before after : List Happening} (hs : log = before ++ .called (.release id) :: after) :
    (∃ v ∈ views before, v.closed = true) ∨
      (∃ fault, .returned (.submit id phrase) (.error fault) ∈ before) ∧
        .returned (.submit id phrase) (.ok ()) ∉ log := by
  have hended : p.ended = true := by
    by_contra hopen
    have hquiet := c.quiet (Bool.not_eq_true _ ▸ hopen) (.called (.release id)) (by simp [hs])
    exact hquiet.1 ⟨id, rfl⟩
  obtain ⟨x, hx, hcause⟩ := c.cause hp hended
  have hbefore : x ∈ before := by
    rw [hs] at hx
    rcases List.mem_append.mp hx with hx | hx
    · exact hx
    exfalso
    rcases List.mem_cons.mp hx with rfl | hx
    · rcases hcause with ⟨v, he, _⟩ | ⟨⟨fault, he⟩, _⟩ <;> cases he
    · obtain ⟨other, result, rfl⟩ := c.after_release hs hx
      rcases hcause with ⟨v, he, _⟩ | ⟨⟨fault, he⟩, _⟩ <;> cases he
  rcases hcause with ⟨v, rfl, hv⟩ | ⟨⟨fault, rfl⟩, hnot⟩
  · exact Or.inl ⟨v, List.mem_filterMap.mpr ⟨_, hbefore, rfl⟩, hv⟩
  · exact Or.inr ⟨⟨fault, hbefore⟩, hnot⟩

theorem Course.ledger (c : Course phrase log p) (hp : p.query? = some id) :
    Ledger phrase id log := by
  obtain ⟨rs, hrs, hcount⟩ := c.count_kinds hp
  have hrelease : p.release?.toList.map Request.kind =
      List.replicate p.release?.toList.length .release := by
    cases p <;> rfl
  have htrain : (rs.map Request.kind).count .train ≤ 1 := hrs.count_call (a := .beginTraining) rfl
  have hrank : (rs.map Request.kind).count .rank ≤ 1 := hrs.count_call (a := .beginRanking) rfl
  refine
    { submitted := c.submitted_prefix hp
      submit_once := ?_
      about := fun r => c.about hp
      train_once := ?_
      rank_once := ?_
      release_once := ?_
      refused := ?_
      closed := fun before v after => c.after_close hp
      released := fun before after hs => ⟨?_, c.before_release hp hs⟩ }
  · rw [hcount, hrs.count_frame (by simp), hrelease]
    simp [List.count_replicate]
  · rw [hcount, hrelease]
    simpa [List.count_replicate] using htrain
  · rw [hcount, hrelease]
    simpa [List.count_replicate] using hrank
  · rw [hcount, hrs.count_frame (by simp), hrelease]
    cases p.release? <;> simp
  · intro fault hf r hr
    rw [c.calls_of_refused hp hf, p.release?_eq hp] at hr
    split at hr
    · simpa using hr
    · have hfew : r = .start ∨ r = .submit id phrase := by simpa using hr
      exact hfew.imp_right Or.inl
  · refine List.filterMap_eq_nil_iff.mpr fun y hy => ?_
    obtain ⟨other, result, rfl⟩ := c.after_release hs hy
    rfl

/-- A session can go on until it has released its query, or could not start one. -/
theorem Phase.of_stuck (h : ∀ es q, ¬ p.Step phrase es q) :
    p = .unstarted ∨ ∃ id, p = .released id := by
  cases p with
  | starting => exact absurd (.unstarted .transport) (h _ _)
  | unstarted => exact Or.inl rfl
  | submitting id => exact absurd (.accepted id) (h _ _)
  | live l => exact absurd (.leave l) (h _ _)
  | finished id => exact absurd (.release id) (h _ _)
  | releasing id => exact absurd (.released id (.ok ())) (h _ _)
  | released id => exact Or.inr ⟨id, rfl⟩

/-- **Every call of a session is accounted for.** A query is asked for once. If none is given,
nothing else is called; if one is, the log keeps its `Ledger`. Until the session is over the query
is not released and no view says that it is closed; when nothing more can happen, the query has been
released once. -/
theorem Course.calls_accounted (c : Course phrase log p) :
    (calls log).head? = some .start ∧ (kinds log).count .start = 1 ∧
    ((∀ id, .returned .start (.ok id) ∉ log) → calls log = [.start]) ∧
    (∀ id, .returned .start (.ok id) ∈ log → Ledger phrase id log) ∧
    (p.ended = false → (kinds log).count .release = 0 ∧ ∀ v ∈ views log, v.closed = false) ∧
    ((∀ es q, ¬ p.Step phrase es q) →
      ∀ id, .returned .start (.ok id) ∈ log → (kinds log).count .release = 1) := by
  refine ⟨?_, ?_, ?_, ?_, ?_, ?_⟩
  · cases hp : p.query? with
    | none => rw [c.calls_of_query?_none hp]; rfl
    | some id =>
      obtain ⟨rs, _, hc⟩ := c.calls_of_query? hp
      rw [hc]
      rfl
  · cases hp : p.query? with
    | none => rw [kinds, c.calls_of_query?_none hp]; rfl
    | some id =>
      obtain ⟨rs, hrs, hcount⟩ := c.count_kinds hp
      rw [hcount, hrs.count_frame (by simp)]
      cases p <;> rfl
  · intro hnone
    refine c.calls_of_query?_none ?_
    cases hp : p.query? with
    | none => rfl
    | some id => exact absurd ((c.started_iff id).mpr hp) (hnone id)
  · intro id hid
    exact c.ledger ((c.started_iff id).mp hid)
  · intro hopen
    have hquiet := c.quiet hopen
    refine ⟨List.count_eq_zero_of_not_mem fun hm => ?_, fun v hv => ?_⟩
    · obtain ⟨r, hr, hkind⟩ := List.mem_map.mp hm
      obtain ⟨x, hx, hcall⟩ := List.mem_filterMap.mp hr
      cases r <;> cases hkind
      cases x <;> cases hcall
      exact (hquiet _ hx).1 ⟨_, rfl⟩
    · obtain ⟨x, hx, hview⟩ := List.mem_filterMap.mp hv
      cases x <;> cases hview
      exact Bool.not_eq_true _ ▸ fun hclosed => (hquiet _ hx).2 ⟨v, rfl, hclosed⟩
  · intro hstuck id hid
    have hp := (c.started_iff id).mp hid
    rcases Phase.of_stuck hstuck with rfl | ⟨other, rfl⟩
    · cases hp
    · obtain ⟨rs, hrs, hcount⟩ := c.count_kinds hp
      rw [hcount, hrs.count_frame (by simp)]
      rfl

/-- A session that is closed while its training has not been answered, and whose release fails. -/
theorem Course.calls_accounted_outstanding :
    ∃ log, Course sampleRoute.phrase log (.released sampleRoute.id) ∧
      calls log = [.start, .submit sampleRoute.id sampleRoute.phrase, .train sampleRoute.id,
        .release sampleRoute.id] ∧
      .returned (.release sampleRoute.id) (.error .transport) ∈ log ∧
      (kinds log).count .release = 1 ∧ Ledger sampleRoute.phrase sampleRoute.id log := by
  have starting : Course sampleRoute.phrase _ _ := .start
  have accepted := (starting.step (.started sampleRoute.id)).step (.accepted _)
  have told := accepted.step
    (.take (.notified ⟨sampleRoute.id, .stage .dataCollectionComplete⟩) trivial)
  have called := told.step (.call (List.mem_singleton.mpr rfl : Task.train ∈ [Task.train]))
  have ended := ((called.step (.leave _)).step (.close rfl rfl)).step (.release _)
  have released := ended.step (.released _ (.error .transport))
  obtain ⟨_, _, _, hledger, _, hrelease⟩ := released.calls_accounted
  have hstarted : Happening.returned .start (.ok sampleRoute.id) ∈ _ :=
    (released.started_iff sampleRoute.id).mpr rfl
  exact ⟨_, released, rfl, List.mem_append_right _ (List.mem_singleton.mpr rfl),
    hrelease (fun _ _ h => by cases h) _ hstarted, hledger _ hstarted⟩

end RankedSearch.Session
