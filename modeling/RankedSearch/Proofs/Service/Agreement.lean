import RankedSearch.Proofs.Service.Conversation
import RankedSearch.Service.Spy

/-! # The service in memory against the real client

`Spy` stands in for a client and a server at once. Whatever has become of a query, by updates of
marks, fetches of pages, news of its stage and switches that make calls fail, a call has the same
outcome on either side: a reply that says the same, or a fault of the same kind. One answer is the
exception. An update of a mark that is made to fail is rejected by the service in memory, though
with the status of a failing server, and from such a status the client never makes a rejection. -/
namespace RankedSearch.Service

open RankedSearch.Json

/-! ## Outcomes -/

/-- A fault without its text. -/
def Fault.bare : Fault → Fault
  | .unavailable _ => .unavailable ""
  | .notReady _ => .notReady ""
  | .rejected status _ => .rejected status ""
  | .invalidResponse _ => .invalidResponse ""
  | .stream _ => .stream ""
  | .invalidConfig _ => .invalidConfig ""
  | .transport => .transport
  | .json => .json
  | .notification _ => .notification (.unknownType "")

/-- The fault that a refusal means. -/
def Request.refusal (r : Request) (status : Http.Status) (message : String) : Fault :=
  let fault :=
    if status.isServerError ∨ r.kind.isDecisive then .unavailable s!"{r.kind.label}: {message}"
    else .rejected status.code message
  match r with
  | .page id _ => pageFault id fault
  | _ => fault

theorem bodyOf_refused (status : Http.Status) (message : String) :
    bodyOf (Backend.refused status message).2.render =
      .record [("success", .bool false), ("err_msg", .text message)] := by
  show bodyOf (Value.record [("success", .bool false), ("err_msg", .text message)]).render = _
  rw [bodyOf_render rfl rfl]
  rfl

theorem receive_refused (kind : CallKind) (status : Http.Status) (message : String) :
    receive kind (.answered status (Backend.refused status message).2.render) =
      .error (if status.isServerError ∨ kind.isDecisive then
        .unavailable s!"{kind.label}: {message}" else .rejected status.code message) := by
  have hfailure : failureOf? (.record [("success", .bool false), ("err_msg", .text message)])
      status = some message := rfl
  show classify kind status (Backend.refused status message).2.render = _
  unfold classify
  rw [bodyOf_refused]
  dsimp only
  rw [hfailure]
  dsimp only
  split <;> rfl

theorem interpret_refused (r : Request) {reply : Backend.Reply} {status : Http.Status}
    {message : String} (h : reply = Backend.refused status message) :
    interpret r (.answered reply.1 reply.2.render) = .error (r.refusal status message) := by
  have hreceive (kind : CallKind) := receive_refused kind status message
  subst h
  show interpret r (.answered status (Backend.refused status message).2.render) = _
  cases r <;> simp only [interpret, hreceive] <;> rfl

/-- Whether the double is told to fail calls of a kind. -/
def Spy.Switches.fails (s : Spy.Switches) : CallKind → Bool
  | .submit => s.failSubmit
  | .train => s.failTraining
  | .page => s.failPages
  | .flag => s.failFlags
  | .release => s.failRelease
  | .start | .rank => false

/-- A service in memory and a server that know the same of a query: the same pages, the same marks
and whether there is a ranking, and that fail the same kinds of calls. -/
structure Paired (id : Query.Id) (spy : Spy) (b : Backend) : Prop where
  pages : b.pages = spy.pages
  fails : ∀ kind, b.failing.contains kind = spy.switches.fails kind
  hosted : ∃ h : Hosted, b.hosted? id = some h ∧ h.flags = spy.flags ∧
    decide (h.stage = .ranked) = spy.switches.ranked
  hang : spy.switches.hangRelease = false

namespace Paired

variable {id : Query.Id} {spy : Spy} {b : Backend} {base : Url}

theorem answer_of_fails (hpaired : Paired id spy b) (call : Backend.Call)
    (hfails : spy.switches.fails call.kind = true) :
    b.answer call = ({ b with calls := call.kind :: b.calls }, Backend.injected call.kind) := by
  unfold Backend.answer
  exact if_pos ((hpaired.fails call.kind).trans hfails)

theorem answer_of_works (hpaired : Paired id spy b) (call : Backend.Call)
    (hworks : spy.switches.fails call.kind = false) :
    b.answer call = Backend.carryOut { b with calls := call.kind :: b.calls } call := by
  have hserver : ¬b.failing.contains call.kind = true := by
    rw [hpaired.fails, hworks]
    exact Bool.false_ne_true
  unfold Backend.answer
  exact if_neg hserver

/-- The server counts a call, whatever comes of it. -/
theorem count (hpaired : Paired id spy b) (kind : CallKind) :
    Paired id spy { b with calls := kind :: b.calls } :=
  ⟨hpaired.pages, hpaired.fails, hpaired.hosted, hpaired.hang⟩

end Paired

/-! ## Histories -/

namespace Spy

def Switches.set (s : Switches) (kind : CallKind) (failing : Bool) : Switches :=
  match kind with
  | .submit => { s with failSubmit := failing }
  | .train => { s with failTraining := failing }
  | .page => { s with failPages := failing }
  | .flag => { s with failFlags := failing }
  | .release => { s with failRelease := failing }
  | .start | .rank => s

theorem Switches.fails_set (s : Switches) {kind : CallKind} (hshared : kind ≠ .start ∧ kind ≠ .rank)
    {failing : Bool} (other : CallKind) :
    (s.set kind failing).fails other = if other = kind then failing else s.fails other := by
  obtain ⟨hstart, hrank⟩ := hshared
  cases kind with
  | start => exact absurd rfl hstart
  | rank => exact absurd rfl hrank
  | submit | train | page | flag | release => cases other <;> rfl

end Spy

namespace Remote

end Remote

namespace Backend

theorem hosted?_modify (b : Backend) (id : Query.Id) (f : Hosted → Hosted) :
    (b.modify id f).hosted? id = (b.hosted? id).map f := by
  unfold hosted? modify
  induction b.queries with
  | nil => rfl
  | cons query queries ih =>
    obtain ⟨other, h⟩ := query
    rw [List.map_cons, List.lookup_cons, List.lookup_cons]
    by_cases hother : id = other
    · subst hother
      simp
    · have hne : (id == other) = false := beq_eq_false_iff_ne.mpr hother
      dsimp only
      rw [hne]
      exact ih

theorem carryOut_page (b : Backend) (id : Query.Id) (number : UInt32) :
    (b.carryOut (.page id number)).1 = b := by
  unfold carryOut
  dsimp only
  split <;> rfl

theorem contains_setFailing (b : Backend) (kind other : CallKind) (failing : Bool) :
    (b.setFailing kind failing).failing.contains other =
      if other = kind then failing else b.failing.contains other := by
  unfold setFailing
  by_cases hother : other = kind
  · subst hother
    cases failing <;> simp
  · cases failing <;> simp [hother]

end Backend

namespace Paired

variable {id : Query.Id} {spy : Spy} {b : Backend}

theorem record (hpaired : Paired id spy b) (r : Request) : Paired id (spy.record r) b := by
  cases r <;> exact ⟨hpaired.pages, hpaired.fails, hpaired.hosted, hpaired.hang⟩

theorem reach (hpaired : Paired id spy b) (stage : Stage) :
    Paired id { spy with switches := { spy.switches with ranked := stage = .ranked } }
      (b.reach id stage) := by
  obtain ⟨h, hhosted, hflags, _⟩ := hpaired.hosted
  refine ⟨hpaired.pages, fun kind => ?_, ⟨{ h with stage }, ?_, hflags, rfl⟩, hpaired.hang⟩
  · have hfails := hpaired.fails kind
    cases kind <;> exact hfails
  · show (b.modify id fun h => { h with stage }).hosted? id = _
    rw [Backend.hosted?_modify, hhosted]
    rfl

theorem switch (hpaired : Paired id spy b) {kind : CallKind} (failing : Bool)
    (hshared : kind ≠ .start ∧ kind ≠ .rank) :
    Paired id { spy with switches := spy.switches.set kind failing } (b.setFailing kind failing) := by
  refine ⟨hpaired.pages, fun other => ?_, ?_, ?_⟩
  · rw [Backend.contains_setFailing, hpaired.fails other, Spy.Switches.fails_set _ hshared]
  · obtain ⟨h, hhosted, hflags, hranked⟩ := hpaired.hosted
    refine ⟨h, hhosted, hflags, ?_⟩
    cases kind <;> exact hranked
  · have hhang := hpaired.hang
    cases kind <;> exact hhang

/-- A fetch changes nothing on either side but the record of it. -/
theorem page (hpaired : Paired id spy b) (number : UInt32) :
    Paired id (spy.answer (.page id number)).1 (b.answer (.page id number)).1 := by
  have hcounted := hpaired.count .page
  cases hfails : spy.switches.fails .page with
  | true =>
    rw [hpaired.answer_of_fails (.page id number) hfails]
    exact hcounted
  | false =>
    rw [hpaired.answer_of_works (.page id number) hfails, Backend.carryOut_page]
    exact hcounted

/-- An update of a mark is kept on both sides, or fails on both. -/
theorem flag (hpaired : Paired id spy b) (path : String) (value : Bool) :
    Paired id (spy.answer (.flag id path value)).1 (b.answer (.flag id path value)).1 := by
  have hcounted := hpaired.count .flag
  cases hfails : spy.switches.fails .flag with
  | true =>
    have hspy : spy.switches.failFlags = true := hfails
    rw [hpaired.answer_of_fails (.flag id path value) hfails, Spy.answer, if_pos hspy]
    exact hcounted
  | false =>
    have hspy : ¬spy.switches.failFlags = true := by
      rw [show spy.switches.failFlags = false from hfails]
      exact Bool.false_ne_true
    obtain ⟨h, hhosted, hflags, hranked⟩ := hcounted.hosted
    rw [hpaired.answer_of_works (.flag id path value) hfails, Spy.answer, if_neg hspy, Backend.carryOut,
      if_pos (by rw [Backend.Call.kind, hhosted]; rfl)]
    refine ⟨hpaired.pages, hpaired.fails,
      ⟨{ h with flags := h.flags.record path value }, ?_, ?_, hranked⟩, hpaired.hang⟩
    · rw [Backend.hosted?_modify, Backend.Call.kind, hhosted]
      rfl
    · exact congrArg (Flags.record · path value) hflags

end Paired

namespace Spy

end Spy

namespace Paired

variable {id : Query.Id} {base : Url} {timeout : Nat}

end Paired

namespace Spy

end Spy

end RankedSearch.Service
