import RankedSearch.Proofs.Json.Documents
import RankedSearch.Proofs.Service.Replies

/-! # When a page is asked for too early

A page that is asked for before there is a ranking is refused. The service may say so by the status
of a conflict, whatever the reply says, and by the words of a refusal, unless it has failed itself:
then it is its failure that counts. -/
namespace RankedSearch.Service

open RankedSearch.Json RankedSearch.Text

/-! ## Words -/

/-- Whether a message says that there is no ranking yet, in letters of either case. -/
def SaysUnranked (message : String) : Prop :=
  ∃ words, words <:+: message.toList ∧
    (words.map Char.toLower = "not ranked".toList ∨
      words.map Char.toLower = "not been ranked".toList)

theorem reportsUnranked_iff {message : String} :
    reportsUnranked message = true ↔ SaysUnranked message := by
  unfold reportsUnranked lowerAscii SaysUnranked
  simp only [String.toList_ofList, Bool.or_eq_true, occurs_iff_isInfix, List.infix_map_iff]
  constructor
  · rintro (⟨words, h, hwords⟩ | ⟨words, h, hwords⟩)
    · exact ⟨words, h, .inl hwords.symm⟩
    · exact ⟨words, h, .inr hwords.symm⟩
  · rintro ⟨words, h, hwords | hwords⟩
    · exact .inl ⟨words, h, hwords.symm⟩
    · exact .inr ⟨words, h, hwords.symm⟩

/-! ## Messages -/

/-- What an object that denies its success says about it. -/
def Blames (text message : String) : Prop :=
  ∃ members, Value.ofText? text = some (.object members) ∧
    (Value.object members).get? "success" = some (.bool false) ∧
    (Value.object members).get? "err_msg" = some (.text message)

/-- What a text says if it does not deny its success: all of it if it is not JSON, a string, or what
an object has for a message. -/
inductive Remark (text : String) : String → Prop
  | plain (hblank : trim text ≠ "") (h : Value.ofText? text = none) : Remark text (trim text)
  | quoted {message : String} (h : Value.ofText? text = some (.text message)) : Remark text message
  | reason {members : List (Option String × Value)} {message : String}
      (h : Value.ofText? text = some (.object members))
      (hmessage : (Value.object members).get? "err_msg" = some (.text message)) :
      Remark text message
  | note {members : List (Option String × Value)} {message : String}
      (h : Value.ofText? text = some (.object members))
      (hreason : (Value.object members).get? "err_msg" = none)
      (hmessage : (Value.object members).get? "message" = some (.text message)) :
      Remark text message

/-- What a refusal says: the reason for which success is denied, what the text says otherwise, or
the status if the text says nothing. -/
inductive Says (status : Http.Status) (text : String) : String → Prop
  | blame {message : String} (h : Blames text message) : Says status text message
  | remark {message : String} (hstatus : status.isSuccess = false) (hquiet : ¬DeniesSuccess text)
      (h : Remark text message) : Says status text message
  | silent (hstatus : status.isSuccess = false) (hquiet : ¬DeniesSuccess text)
      (h : ∀ message, ¬Remark text message) : Says status text status.text

theorem bind_asText?_eq_some_iff {v : Option Value} {message : String} :
    v.bind Value.asText? = some message ↔ v = some (.text message) := by
  rcases v with _ | (_ | _ | _ | (_ | _) | _ | _) <;> simp [Value.asText?, Value.text]

theorem Remark.describeFailure {status : Http.Status} {text message : String}
    (h : Remark text message) : describeFailure (bodyOf text) status = message := by
  cases h with
  | plain hblank h =>
    unfold bodyOf
    rw [if_neg hblank, h]
    rfl
  | quoted h =>
    rw [bodyOf_of_ofText? h]
    rfl
  | reason h hmessage =>
    rw [bodyOf_of_ofText? h]
    simp [Service.describeFailure, hmessage, Value.asText?, Value.text]
  | note h hreason hmessage =>
    rw [bodyOf_of_ofText? h]
    simp [Service.describeFailure, hreason, hmessage, Value.asText?, Value.text]

theorem describeFailure_of_silent {status : Http.Status} {text : String}
    (h : ∀ message, ¬Remark text message) :
    describeFailure (bodyOf text) status = status.text := by
  cases hv : Value.ofText? text with
  | none =>
    have hblank : trim text = "" := by
      by_contra hblank
      exact h _ (.plain hblank hv)
    unfold bodyOf
    rw [if_pos hblank]
    rfl
  | some v =>
    rw [bodyOf_of_ofText? hv]
    cases v with
    | string s =>
      cases s with
      | some message => exact absurd (.quoted hv) (h message)
      | none => rfl
    | object members =>
      cases hmessage : (((Value.object members).get? "err_msg").or
          ((Value.object members).get? "message")).bind Value.asText? with
      | none => simp [describeFailure, hmessage]
      | some message =>
        rcases Option.or_eq_some_iff.mp (bind_asText?_eq_some_iff.mp hmessage) with
          hreason | ⟨hreason, hnote⟩
        · exact absurd (.reason hv hreason) (h message)
        · exact absurd (.note hv hreason hnote) (h message)
    | null | bool | number | array => rfl

/-- The words that stand in for a missing reason do not say it. -/
theorem not_saysUnranked_default : ¬SaysUnranked "request failed without an error message" := by
  rw [← reportsUnranked_iff]
  decide +kernel

/-- A refusal that says that there is no ranking is taken to say just that. -/
theorem failureOf?_eq_some_iff {status : Http.Status} {text message : String}
    (hunranked : SaysUnranked message) :
    failureOf? (bodyOf text) status = some message ↔ Says status text message := by
  by_cases hdenies : DeniesSuccess text
  · obtain ⟨members, htext, hsuccess⟩ := hdenies
    have hfailure : failureOf? (bodyOf text) status =
        some ((((Value.object members).get? "err_msg").bind Value.asText?).getD
          "request failed without an error message") := by
      rw [bodyOf_of_ofText? htext]
      simp [failureOf?, envelopeError?, hsuccess, Value.asBool?]
    rw [hfailure, Option.some.injEq]
    constructor
    · intro hmessage
      cases hreason : ((Value.object members).get? "err_msg").bind Value.asText? with
      | some reason =>
        rw [hreason] at hmessage
        cases hmessage
        exact .blame ⟨members, htext, hsuccess, bind_asText?_eq_some_iff.mp hreason⟩
      | none =>
        rw [hreason] at hmessage
        cases hmessage
        exact absurd hunranked not_saysUnranked_default
    · rintro (⟨members', htext', _, hreason⟩ | ⟨_, hquiet, _⟩ | ⟨_, hquiet, _⟩)
      · cases htext.symm.trans htext'
        rw [bind_asText?_eq_some_iff.mpr hreason]
        rfl
      all_goals exact absurd ⟨members, htext, hsuccess⟩ hquiet
  · have hfailure : failureOf? (bodyOf text) status =
        if status.isSuccess then none else some (describeFailure (bodyOf text) status) := by
      unfold failureOf?
      rw [envelopeError?_eq_none_iff.mpr hdenies]
    rw [hfailure]
    constructor
    · intro hmessage
      split at hmessage
      · cases hmessage
      · rename_i hstatus
        rw [Bool.not_eq_true] at hstatus
        cases hmessage
        by_cases hremark : ∃ message, Remark text message
        · obtain ⟨message, hremark⟩ := hremark
          rw [hremark.describeFailure]
          exact .remark hstatus hdenies hremark
        · have hsilent := not_exists.mp hremark
          rw [describeFailure_of_silent hsilent]
          exact .silent hstatus hdenies hsilent
    · rintro (⟨members, htext, hsuccess, _⟩ | ⟨hstatus, _, hremark⟩ | ⟨hstatus, _, hsilent⟩)
      · exact absurd ⟨members, htext, hsuccess⟩ hdenies
      · rw [hstatus, hremark.describeFailure]
        rfl
      · rw [hstatus, describeFailure_of_silent hsilent]
        rfl

theorem Says.refuses {status : Http.Status} {text message : String}
    (h : Says status text message) : Refuses status text := by
  cases h with
  | blame h =>
    obtain ⟨members, htext, hsuccess, _⟩ := h
    exact .inr ⟨members, htext, hsuccess⟩
  | remark hstatus | silent hstatus => exact .inl hstatus

/-! ## Pages -/

theorem pageFault_eq_notReady_iff {id : Query.Id} {code : Nat} {message query : String} :
    pageFault id (.rejected code message) = .notReady query ↔
      query = id.text ∧ (code = Http.Status.conflict.code ∨ SaysUnranked message) := by
  unfold pageFault
  rw [← reportsUnranked_iff]
  dsimp only
  split
  · rename_i h
    rw [Fault.notReady.injEq]
    exact ⟨fun hquery => ⟨hquery.symm, h⟩, fun hquery => hquery.1.symm⟩
  · rename_i h
    exact iff_of_false nofun fun hquery => h hquery.2

/-- The refusal of a page by a service that has not failed itself. -/
theorem interpret_page_of_refused (id : Query.Id) (number : UInt32) {status : Http.Status}
    {text : String} (hrefused : Refuses status text) (hstatus : status.isServerError = false) :
    ∃ message, failureOf? (bodyOf text) status = some message ∧
      interpret (.page id number) (.answered status text) =
        .error (pageFault id (.rejected status.code message)) := by
  apply interpret_of_refused hrefused
  rw [hstatus]
  rintro (h | h) <;> cases h

theorem interpret_page_of_unranked {id : Query.Id} {number : UInt32} {status : Http.Status}
    {text message : String} (hreason : Says status text message)
    (hstatus : status.isServerError = false) (hunranked : SaysUnranked message) :
    interpret (.page id number) (.answered status text) = .error (.notReady id.text) := by
  obtain ⟨message', hmessage, h⟩ := interpret_page_of_refused id number hreason.refuses hstatus
  cases hmessage.symm.trans ((failureOf?_eq_some_iff hunranked).mpr hreason)
  rw [h, pageFault_eq_notReady_iff.mpr ⟨rfl, .inr hunranked⟩]

/-- **When a page comes too early.** Exactly if the status is that of a conflict, or the service has
not failed itself and its refusal says in so many words that there is no ranking. -/
theorem page_notReady_iff (id : Query.Id) (number : UInt32) (status : Http.Status)
    (text query : String) :
    interpret (.page id number) (.answered status text) = .error (.notReady query) ↔
      query = id.text ∧ (status = .conflict ∨
        status.isServerError = false ∧
          ∃ message, Says status text message ∧ SaysUnranked message) := by
  constructor
  · intro h
    have hblamed := blamed h
    generalize hfault : Fault.notReady query = fault at hblamed
    cases hblamed with
    | @refused message _ hdown hmessage =>
      obtain ⟨hquery, hcause⟩ := pageFault_eq_notReady_iff.mp hfault.symm
      refine ⟨hquery, ?_⟩
      rcases hcause with hcode | hunranked
      · exact .inl (congrArg Http.Status.mk hcode)
      · have hstatus : status.isServerError = false := Bool.eq_false_iff.mpr fun h => hdown (.inl h)
        exact .inr ⟨hstatus, message, (failureOf?_eq_some_iff hunranked).mp hmessage, hunranked⟩
    | down | nameless | malformed => cases hfault
  · rintro ⟨hquery, rfl | ⟨hstatus, message, hreason, hunranked⟩⟩
    · have hrefused : Refuses .conflict text := .inl rfl
      obtain ⟨message, _, h⟩ := interpret_page_of_refused id number hrefused rfl
      rw [h, pageFault_eq_notReady_iff.mpr ⟨hquery, .inl rfl⟩]
    · rw [interpret_page_of_unranked hreason hstatus hunranked, hquery]

/-- It is not the object alone that decides. A service that has failed is down even if its object
says that there is no ranking, and a refusal may say so without an object. -/
theorem page_notReady_not_by_object :
    let denial := "\x7b\"success\":false,\"err_msg\":\"query not ranked\"\x7d"
    ((∃ message, Blames denial message ∧ SaysUnranked message) ∧
      ∃ message, interpret (.page ⟨"q-7"⟩ 1) (.answered .internalError denial) =
        .error (.unavailable message)) ∧
    (Http.Status.notFound ≠ .conflict ∧ (∀ message, ¬Blames "query not ranked" message) ∧
      interpret (.page ⟨"q-7"⟩ 1) (.answered .notFound "query not ranked") =
        .error (.notReady "q-7")) := by
  intro denial
  have hunranked : SaysUnranked "query not ranked" := by
    rw [← reportsUnranked_iff]
    decide +kernel
  have hnone : Value.ofText? "query not ranked" = none := rfl
  have hquiet : ¬DeniesSuccess "query not ranked" := by
    rintro ⟨members, htext, _⟩
    cases hnone.symm.trans htext
  let v : Value := .record [("success", .bool false), ("err_msg", .text "query not ranked")]
  have hdenial : Value.ofText? denial = some v := by
    have hrender : v.render = denial := by decide +kernel
    rw [← hrender]
    exact Value.ofText?_render (by decide +kernel) (by decide +kernel)
  have hdown := @interpret_of_down (.page ⟨"q-7"⟩ 1) .internalError denial
    (.inr ⟨_, hdenial, rfl⟩) (.inl rfl)
  have hreason : Says .notFound "query not ranked" "query not ranked" :=
    .remark rfl hquiet (.plain (by decide +kernel) hnone)
  refine ⟨⟨⟨_, ⟨_, hdenial, rfl, rfl⟩, hunranked⟩, hdown⟩, by decide,
    fun message ⟨members, htext, _⟩ => ?_, interpret_page_of_unranked hreason rfl hunranked⟩
  cases hnone.symm.trans htext

end RankedSearch.Service
