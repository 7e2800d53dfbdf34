import RankedSearch.Proofs.Json.Records
import RankedSearch.Service.Client

/-! # What replies mean

A reply is a status and a text. It refuses a call by its status or, whatever the status, by an
object that denies its success. What becomes of a reply is said once, in `Received`; what each of
the seven calls returns, and when a page is said to come too early, follows from its cases. -/
namespace RankedSearch.Service

open RankedSearch.Json RankedSearch.Text

/-! ## Bodies -/

/-- No number starts with a blank. -/
theorem number?_of_isBlank {c : Char} (h : isBlank c = true) (rest : List Char) :
    Parser.number? (c :: rest) = none := by
  have hdigit : c.isDigit = false := by
    rw [Bool.eq_false_iff]
    intro hdigit
    rw [isBlank_of_isDigit hdigit] at h
    cases h
  have hminus : c ≠ '-' := by rintro rfl; cases h
  have hzero : c ≠ '0' := by rintro rfl; cases h
  have hnone : Parser.someDigits? (c :: rest) = none := by
    simp [Parser.someDigits?, Parser.spanDigits, hdigit]
  simp [Parser.number?, Parser.magnitude?, Parser.integerPart?, hminus, hzero, hnone]

/-- Blanks alone are no JSON, whether JSON has them for white space or not. -/
theorem value?_of_isBlank {cs : List Char} (h : ∀ c ∈ cs, isBlank c = true) (fuel : Nat) :
    Parser.value? fuel cs = none := by
  cases fuel with
  | zero => rfl
  | succ fuel =>
    have hskip : ∀ c ∈ Parser.skipSpace cs, isBlank c = true :=
      fun c hc => h c ((List.dropWhile_suffix _).subset hc)
    unfold Parser.value?
    generalize Parser.skipSpace cs = rest at hskip
    cases rest with
    | nil => rfl
    | cons c rest =>
      have hc := hskip c (List.mem_cons_self ..)
      -- every other value starts with a character that is not blank
      split
      case h_1 heq => cases heq
      case h_8 heq =>
        cases heq
        rw [number?_of_isBlank hc]
        rfl
      all_goals
        rename_i heq
        cases heq
        cases hc

theorem trim_ne_of_ofText? {text : String} {v : Value} (h : Value.ofText? text = some v) :
    trim text ≠ "" := by
  intro htrim
  have hblank : ∀ c ∈ text.toList, isBlank c = true := by
    intro c hc
    rw [← Bool.not_eq_false]
    intro hc'
    have hlist := congrArg String.toList htrim
    rw [toList_trim, String.toList_ofList] at hlist
    exact trimList_ne_nil hc hc' hlist
  have hparse : parse? text = none := by
    unfold parse?
    dsimp only
    rw [value?_of_isBlank hblank]
  unfold Value.ofText? at h
  rw [hparse] at h
  cases h

theorem bodyOf_of_ofText? {text : String} {v : Value} (h : Value.ofText? text = some v) :
    bodyOf text = v := by
  unfold bodyOf
  rw [if_neg (trim_ne_of_ofText? h), h, Option.getD_some]

/-- A body is an object just if its text is one. -/
theorem bodyOf_eq_object_iff {text : String} {members : List (Option String × Value)} :
    bodyOf text = .object members ↔ Value.ofText? text = some (.object members) := by
  refine ⟨fun h => ?_, bodyOf_of_ofText?⟩
  unfold bodyOf at h
  split at h
  · cases h
  · cases hv : Value.ofText? text with
    | some v => rw [hv] at h; exact congrArg some h
    | none => rw [hv] at h; cases h

theorem isObject_bodyOf_iff {text : String} :
    (bodyOf text).isObject = true ↔ ∃ members, Value.ofText? text = some (.object members) := by
  constructor
  · intro h
    cases hbody : bodyOf text with
    | object members => exact ⟨members, bodyOf_eq_object_iff.mp hbody⟩
    | null | bool | number | string | array => rw [hbody] at h; cases h
  · rintro ⟨members, h⟩
    rw [bodyOf_of_ofText? h]
    rfl

/-! ## Refusals -/

/-- Whether a text is an object that denies its success. -/
def DeniesSuccess (text : String) : Prop :=
  ∃ members, Value.ofText? text = some (.object members) ∧
    (Value.object members).get? "success" = some (.bool false)

/-- Whether a reply refuses its call, by its status or by its text. -/
def Refuses (status : Http.Status) (text : String) : Prop :=
  status.isSuccess = false ∨ DeniesSuccess text

theorem deniesSuccess_iff {text : String} :
    DeniesSuccess text ↔ ((bodyOf text).get? "success").bind Value.asBool? = some false := by
  constructor
  · rintro ⟨members, htext, hsuccess⟩
    rw [bodyOf_of_ofText? htext, hsuccess]
    rfl
  · intro h
    obtain ⟨v, hget, hbool⟩ := Option.bind_eq_some_iff.mp h
    have hv : v = .bool false := by
      cases v with
      | bool b => exact congrArg Value.bool (Option.some.inj hbool)
      | null | number | string | array | object => cases hbool
    cases hbody : bodyOf text with
    | object members =>
      refine ⟨members, bodyOf_eq_object_iff.mp hbody, ?_⟩
      rw [← hbody, hget, hv]
    | null | bool | number | string | array => rw [hbody] at hget; cases hget

theorem envelopeError?_eq_none_iff {text : String} :
    envelopeError? (bodyOf text) = none ↔ ¬DeniesSuccess text := by
  rw [deniesSuccess_iff]
  unfold envelopeError?
  split
  · rename_i h
    simp [h]
  · rename_i h
    simp [h]

theorem failureOf?_eq_none_iff {status : Http.Status} {text : String} :
    failureOf? (bodyOf text) status = none ↔ ¬Refuses status text := by
  unfold Refuses
  rw [not_or, ← envelopeError?_eq_none_iff, Bool.not_eq_false]
  unfold failureOf?
  cases envelopeError? (bodyOf text) with
  | some message => simp
  | none => simp

/-! ## What becomes of a reply -/

/-- What a call of a kind makes of a reply, before it reads the body of a success. -/
inductive Received (kind : CallKind) (status : Http.Status) (text : String) :
    Except Fault Value → Prop
  | accepted (hquiet : ¬Refuses status text)
      (hobject : kind.needsObject = true → ∃ members, Value.ofText? text = some (.object members)) :
      Received kind status text (.ok (bodyOf text))
  /-- A success without the object that the call needs. -/
  | shapeless (hquiet : ¬Refuses status text) (hkind : kind.needsObject = true)
      (hobject : ¬∃ members, Value.ofText? text = some (.object members)) (message : String) :
      Received kind status text (.error (.invalidResponse message))
  | down (hrefused : Refuses status text)
      (hdown : status.isServerError = true ∨ kind.isDecisive = true) (message : String) :
      Received kind status text (.error (.unavailable message))
  | refused {message : String} (hrefused : Refuses status text)
      (hdown : ¬(status.isServerError = true ∨ kind.isDecisive = true))
      (hmessage : failureOf? (bodyOf text) status = some message) :
      Received kind status text (.error (.rejected status.code message))

theorem received (kind : CallKind) (status : Http.Status) (text : String) :
    Received kind status text (receive kind (.answered status text)) := by
  show Received kind status text (classify kind status text)
  unfold classify
  dsimp only
  cases hfailure : failureOf? (bodyOf text) status with
  | none =>
    have hquiet := failureOf?_eq_none_iff.mp hfailure
    dsimp only
    split
    · rename_i h
      exact .shapeless hquiet h.1 (fun hobject => h.2 (isObject_bodyOf_iff.mpr hobject)) _
    · rename_i h
      refine .accepted hquiet fun hkind => isObject_bodyOf_iff.mp ?_
      by_contra hobject
      exact h ⟨hkind, hobject⟩
  | some message =>
    have hrefused : Refuses status text := by
      by_contra hquiet
      rw [failureOf?_eq_none_iff.mpr hquiet] at hfailure
      cases hfailure
    dsimp only
    split
    · rename_i hdown
      exact .down hrefused hdown _
    · rename_i hdown
      exact .refused hrefused hdown hfailure

/-! ## The seven calls -/

namespace CallKind

theorem isDecisive_iff {kind : CallKind} :
    kind.isDecisive = true ↔ kind = .start ∨ kind = .train ∨ kind = .rank := by
  cases kind <;> decide

theorem needsObject_iff {kind : CallKind} :
    kind.needsObject = true ↔ kind = .start ∨ kind = .page := by
  cases kind <;> decide

end CallKind

namespace Request

/-- What a call makes of a fault: a page that is refused may only have been asked for too early. -/
def faulted (r : Request) (fault : Fault) : Fault :=
  match r with
  | .page id _ => pageFault id fault
  | _ => fault

theorem faulted_unavailable (r : Request) (message : String) :
    r.faulted (.unavailable message) = .unavailable message := by
  cases r <;> rfl

theorem faulted_invalidResponse (r : Request) (message : String) :
    r.faulted (.invalidResponse message) = .invalidResponse message := by
  cases r <;> rfl

theorem faulted_rejected (r : Request) (code : Nat) (message : String) :
    r.faulted (.rejected code message) = .rejected code message ∨
      ∃ id number, r = .page id number ∧
        r.faulted (.rejected code message) = .notReady id.text := by
  cases r with
  | page id number =>
    by_cases h : code = Http.Status.conflict.code ∨ reportsUnranked message = true
    · exact .inr ⟨id, number, rfl, if_pos h⟩
    · exact .inl (if_neg h)
  | start | submit | train | rank | flag | release => exact .inl rfl

/-- The reply that a call reads in the body of a success; most calls read none. -/
def Reads : (r : Request) → Value → r.Reply → Prop
  | .start, body, id => startedId? body = some id
  | .page .., body, p => rankedPage? body = some p
  | _, _, _ => True

end Request

theorem interpret_of_error {r : Request} {d : Http.Delivery} {fault : Fault}
    (h : receive r.kind d = .error fault) : interpret r d = .error (r.faulted fault) := by
  cases r <;> simp only [Request.kind] at h <;> simp only [interpret, h] <;> rfl

theorem interpret_eq_ok_iff {r : Request} {d : Http.Delivery} {body : Value}
    (h : receive r.kind d = .ok body) {a : r.Reply} :
    interpret r d = .ok a ↔ r.Reads body a := by
  cases r with
  | start =>
    simp only [Request.kind] at h
    simp only [interpret, h, Request.Reads]
    cases startedId? body <;> constructor <;> rintro ⟨⟩ <;> rfl
  | page id number =>
    simp only [Request.kind] at h
    simp only [interpret, h, Request.Reads]
    cases rankedPage? body <;> constructor <;> rintro ⟨⟩ <;> rfl
  | submit | train | rank | flag | release =>
    simp only [Request.kind] at h
    simp only [interpret, h, Request.Reads]
    exact iff_of_true rfl trivial

/-- A call succeeds if its reply does not refuse it and brings what it reads. -/
theorem interpret_ok_iff {r : Request} {status : Http.Status} {text : String} {a : r.Reply} :
    interpret r (.answered status text) = .ok a ↔
      ¬Refuses status text ∧ (r.kind.needsObject = true → ∃ members,
        Value.ofText? text = some (.object members) ∧ r.Reads (.object members) a) := by
  have hreceived := received r.kind status text
  cases hreceive : receive r.kind (.answered status text) with
  | error fault =>
    rw [hreceive] at hreceived
    refine iff_of_false (by rw [interpret_of_error hreceive]; rintro ⟨⟩) ?_
    rintro ⟨hquiet, hreads⟩
    cases hreceived with
    | shapeless _ hkind hobject =>
      obtain ⟨members, htext, _⟩ := hreads hkind
      exact hobject ⟨members, htext⟩
    | down hrefused | refused hrefused => exact hquiet hrefused
  | ok body =>
    rw [hreceive] at hreceived
    obtain ⟨hquiet, hobject⟩ := hreceived
    rw [interpret_eq_ok_iff hreceive]
    constructor
    · intro hreads
      refine ⟨hquiet, fun hkind => ?_⟩
      obtain ⟨members, htext⟩ := hobject hkind
      exact ⟨members, htext, bodyOf_of_ofText? htext ▸ hreads⟩
    · rintro ⟨_, hreads⟩
      cases r with
      | start | page =>
        obtain ⟨members, htext, hreads⟩ := hreads rfl
        exact (bodyOf_of_ofText? htext).symm ▸ hreads
      | submit | train | rank | flag | release => trivial

/-- Everything that a call can blame on its reply. -/
inductive Blamed (r : Request) (status : Http.Status) (text : String) : Fault → Prop
  | down (hrefused : Refuses status text)
      (hdown : status.isServerError = true ∨ r.kind.isDecisive = true) (message : String) :
      Blamed r status text (.unavailable message)
  | refused {message : String} (hrefused : Refuses status text)
      (hdown : ¬(status.isServerError = true ∨ r.kind.isDecisive = true))
      (hmessage : failureOf? (bodyOf text) status = some message) :
      Blamed r status text (r.faulted (.rejected status.code message))
  /-- A start without an id. -/
  | nameless (hquiet : ¬Refuses status text) (hkind : r.kind = .start) (message : String) :
      Blamed r status text (.unavailable message)
  | malformed (hquiet : ¬Refuses status text) (hkind : r.kind = .start ∨ r.kind = .page)
      (message : String) : Blamed r status text (.invalidResponse message)

theorem blamed {r : Request} {status : Http.Status} {text : String} {fault : Fault}
    (h : interpret r (.answered status text) = .error fault) : Blamed r status text fault := by
  have hreceived := received r.kind status text
  cases hreceive : receive r.kind (.answered status text) with
  | error fault' =>
    rw [hreceive] at hreceived
    rw [interpret_of_error hreceive] at h
    cases h
    cases hreceived with
    | shapeless hquiet hkind _ message =>
      rw [r.faulted_invalidResponse]
      exact .malformed hquiet (CallKind.needsObject_iff.mp hkind) message
    | down hrefused hdown message =>
      rw [r.faulted_unavailable]
      exact .down hrefused hdown message
    | refused hrefused hdown hmessage => exact .refused hrefused hdown hmessage
  | ok body =>
    rw [hreceive] at hreceived
    obtain ⟨hquiet, _⟩ := hreceived
    cases r with
    | start =>
      simp only [Request.kind] at hreceive
      simp only [interpret, hreceive] at h
      cases hid : startedId? (bodyOf text) with
      | some id => rw [hid] at h; cases h
      | none => rw [hid] at h; cases h; exact .nameless hquiet rfl _
    | page id number =>
      simp only [Request.kind] at hreceive
      simp only [interpret, hreceive] at h
      cases hpage : rankedPage? (bodyOf text) with
      | some page => rw [hpage] at h; cases h
      | none => rw [hpage] at h; cases h; exact .malformed hquiet (.inr rfl) _
    | submit | train | rank | flag | release =>
      simp only [Request.kind] at hreceive
      simp only [interpret, hreceive] at h
      cases h

theorem interpret_of_refuses {r : Request} {status : Http.Status} {text : String}
    (hrefused : Refuses status text) :
    ∃ fault, interpret r (.answered status text) = .error fault ∧ Blamed r status text fault := by
  cases h : interpret r (.answered status text) with
  | ok a => exact absurd hrefused (interpret_ok_iff.mp h).1
  | error fault => exact ⟨fault, rfl, blamed h⟩

/-- A refusal that means that the service is down. -/
theorem interpret_of_down {r : Request} {status : Http.Status} {text : String}
    (hrefused : Refuses status text)
    (hdown : status.isServerError = true ∨ r.kind.isDecisive = true) :
    ∃ message, interpret r (.answered status text) = .error (.unavailable message) := by
  obtain ⟨fault, h, hblamed⟩ := interpret_of_refuses (r := r) hrefused
  cases hblamed with
  | down _ _ message => exact ⟨message, h⟩
  | refused _ hup => exact absurd hdown hup
  | nameless hquiet | malformed hquiet => exact absurd hrefused hquiet

/-- Any other refusal. -/
theorem interpret_of_refused {r : Request} {status : Http.Status} {text : String}
    (hrefused : Refuses status text)
    (hup : ¬(status.isServerError = true ∨ r.kind.isDecisive = true)) :
    ∃ message, failureOf? (bodyOf text) status = some message ∧
      interpret r (.answered status text) =
        .error (r.faulted (.rejected status.code message)) := by
  obtain ⟨fault, h, hblamed⟩ := interpret_of_refuses (r := r) hrefused
  cases hblamed with
  | down _ hdown => exact absurd hdown hup
  | refused _ _ hmessage => exact ⟨_, hmessage, h⟩
  | nameless hquiet | malformed hquiet => exact absurd hrefused hquiet

namespace Blamed

variable {r : Request} {status : Http.Status} {text message : String} {code : Nat}

theorem of_rejected (h : Blamed r status text (.rejected code message)) :
    code = status.code ∧ status.isServerError = false := by
  generalize hfault : Fault.rejected code message = fault at h
  cases h with
  | @refused message' _ hdown _ =>
    rcases r.faulted_rejected status.code message' with h | ⟨id, number, _, h⟩
    · cases hfault.trans h
      exact ⟨rfl, Bool.eq_false_iff.mpr fun h => hdown (.inl h)⟩
    · cases hfault.trans h
  | down | nameless | malformed => cases hfault

theorem of_invalidResponse (h : Blamed r status text (.invalidResponse message)) :
    ¬Refuses status text ∧ (r.kind = .start ∨ r.kind = .page) := by
  generalize hfault : Fault.invalidResponse message = fault at h
  cases h with
  | malformed hquiet hkind => exact ⟨hquiet, hkind⟩
  | @refused message' _ _ _ =>
    rcases r.faulted_rejected status.code message' with h | ⟨id, number, _, h⟩ <;>
      cases hfault.trans h
  | down | nameless => cases hfault

end Blamed

/-- **How replies are classified.** A call succeeds exactly if its reply does not refuse it and, for
a start or a page, is an object in which the call reads what it asked for. A refusal means that the
service is unavailable if the service itself has failed or the query cannot go on without the call;
any other is a rejection with the status of the reply, or says that a page came too early. -/
theorem replies_classified (r : Request) (status : Http.Status) (text : String) :
    (∀ a, interpret r (.answered status text) = .ok a ↔
      status.isSuccess = true ∧ ¬DeniesSuccess text ∧
        (r.kind = .start ∨ r.kind = .page → ∃ members,
          Value.ofText? text = some (.object members) ∧ r.Reads (.object members) a)) ∧
    (status.isSuccess = false ∨ DeniesSuccess text →
      ∃ fault, interpret r (.answered status text) = .error fault ∧
        if status.isServerError = true ∨ r.kind = .start ∨ r.kind = .train ∨ r.kind = .rank then
          ∃ message, fault = .unavailable message
        else
          (∃ message, fault = .rejected status.code message) ∨
            ∃ id number, r = .page id number ∧ fault = .notReady id.text) ∧
    (∀ code message, interpret r (.answered status text) = .error (.rejected code message) →
      code = status.code ∧ ¬(500 ≤ code ∧ code < 600)) ∧
    (r.kind = .train ∨ r.kind = .rank → ∀ fault,
      interpret r (.answered status text) = .error fault →
        ∃ message, fault = .unavailable message) ∧
    ∀ message, interpret r (.answered status text) = .error (.invalidResponse message) →
      (r.kind = .start ∨ r.kind = .page) ∧ status.isSuccess = true ∧ ¬DeniesSuccess text := by
  have hquiet_iff : ¬Refuses status text ↔ status.isSuccess = true ∧ ¬DeniesSuccess text := by
    rw [Refuses, not_or, Bool.not_eq_false]
  refine ⟨fun a => ?_, fun hrefused => ?_, fun code message h => ?_, fun hkind fault h => ?_,
    fun message h => ?_⟩
  · rw [interpret_ok_iff, hquiet_iff, CallKind.needsObject_iff, and_assoc]
  · by_cases hdown : status.isServerError = true ∨ r.kind.isDecisive = true
    · obtain ⟨message, h⟩ := interpret_of_down hrefused hdown
      refine ⟨_, h, ?_⟩
      rw [if_pos (hdown.imp_right CallKind.isDecisive_iff.mp)]
      exact ⟨message, rfl⟩
    · obtain ⟨message, _, h⟩ := interpret_of_refused hrefused hdown
      refine ⟨_, h, ?_⟩
      rw [if_neg fun h => hdown (h.imp_right CallKind.isDecisive_iff.mpr)]
      exact (r.faulted_rejected status.code message).imp_left fun h => ⟨message, h⟩
  · obtain ⟨hcode, hstatus⟩ := (blamed h).of_rejected
    refine ⟨hcode, fun hrange => ?_⟩
    rw [hcode] at hrange
    simp [Http.Status.isServerError, hrange] at hstatus
  · cases blamed h with
    | down _ _ message => exact ⟨message, rfl⟩
    | refused _ hdown => exact absurd (.inr (CallKind.isDecisive_iff.mpr (.inr hkind))) hdown
    | nameless _ _ message => exact ⟨message, rfl⟩
    | malformed _ hobject => rcases hkind with hkind | hkind <;> simp [hkind] at hobject
  · obtain ⟨hquiet, hkind⟩ := (blamed h).of_invalidResponse
    exact ⟨hkind, hquiet_iff.mp hquiet⟩

end RankedSearch.Service
