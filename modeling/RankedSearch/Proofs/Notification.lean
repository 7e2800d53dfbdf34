import RankedSearch.Notification
import RankedSearch.Proofs.Service.Conversation

/-! # Notifications survive the wire

A notification is read from every text that writes its wire form, a stage from every text that is
one of its two names up to blanks and case, and a query is known by its number as well as by the
digits of it. -/
namespace RankedSearch

open RankedSearch.Json

/-! ## Ids -/

namespace Query.Id

theorem ofInt_eq (k : Int) : ofInt k = ⟨toString k⟩ := by
  unfold ofInt
  cases k with
  | ofNat n => rfl
  | negSucc n =>
    have htext : String.ofList ('-' :: Nat.toDigits 10 (n + 1)) =
        "-" ++ String.ofList (Nat.toDigits 10 (n + 1)) := @String.ofList_append ['-'] _
    rw [if_pos (Int.negSucc_lt_zero n)]
    exact congrArg mk htext

/-- The values that stand for an id: a string, or an integer of at most 64 bits. -/
inductive Form : Id → Value → Prop
  | text (id : Id) : Form id (.text id.text)
  | integer {k : Int} (hlow : -2 ^ 63 ≤ k) (hhigh : k < 2 ^ 64) : Form ⟨toString k⟩ (.integer k)

variable {id : Id} {v : Value}

/-- **An id reads the same in either form.** -/
theorem Form.ofJson? (h : id.Form v) : Id.ofJson? v = some id := by
  cases h with
  | text => rfl
  | integer hlow hhigh =>
    show (Literal.ofInt _).toInt?.map ofInt = _
    rw [Literal.toInt?_ofInt hlow hhigh, Option.map_some, ofInt_eq]

theorem Form.settled (h : id.Form v) : v.settled = v := by
  cases h with
  | text => rfl
  | integer => rfl

end Query.Id

/-! ## Stages -/

namespace Stage

/-- Whether a text is one of the names of a stage, up to the blanks around it and the case of its
ASCII letters. -/
def IsNamed (s : Stage) (raw : String) : Prop :=
  ∃ name ∈ [s.wireName, s.label],
    name.toList.map Char.toLower = (Text.trim raw).toList.map Char.toLower

/-- No two stages share a name. -/
theorem eq_of_names : ∀ s t : Stage, ∀ a ∈ [s.wireName, s.label], ∀ b ∈ [t.wireName, t.label],
    a.toList.map Char.toLower = b.toList.map Char.toLower → s = t := by
  intro s t
  cases s <;> cases t <;> decide

theorem IsNamed.unique {s t : Stage} {raw : String} (hs : s.IsNamed raw) (ht : t.IsNamed raw) :
    s = t := by
  obtain ⟨a, ha, hraw⟩ := hs
  obtain ⟨b, hb, hraw'⟩ := ht
  exact eq_of_names s t a ha b hb (hraw.trans hraw'.symm)

theorem isNamed_iff {s : Stage} {raw : String} : s.IsNamed raw ↔
    (sameLetters s.wireName (Text.trim raw) || sameLetters s.label (Text.trim raw)) = true := by
  unfold IsNamed sameLetters
  rw [Bool.or_eq_true, beq_iff_eq, beq_iff_eq, List.exists_mem_cons_iff, List.exists_mem_cons_iff]
  simp only [List.not_mem_nil, false_and, exists_false, or_false]

theorem mem_all (s : Stage) : s ∈ all := by cases s <;> decide

theorem isNamed_of_ofText? {s : Stage} {raw : String} (h : ofText? raw = some s) :
    s.IsNamed raw := by
  unfold ofText? at h
  have hnamed := List.find?_some h
  exact isNamed_iff.mpr hnamed

theorem ofText?_eq_none {raw : String} (h : ∀ s : Stage, ¬s.IsNamed raw) : ofText? raw = none := by
  cases hfound : ofText? raw with
  | none => rfl
  | some s => exact absurd (isNamed_of_ofText? hfound) (h s)

/-- **A text is read as a stage exactly if it is one of its names.** -/
theorem ofText?_eq_some_iff {s : Stage} {raw : String} : ofText? raw = some s ↔ s.IsNamed raw := by
  constructor
  · exact isNamed_of_ofText?
  · intro h
    cases hfound : ofText? raw with
    | some t => rw [h.unique (isNamed_of_ofText? hfound)]
    | none =>
      unfold ofText? at hfound
      exact absurd (isNamed_iff.mp h) (List.find?_eq_none.mp hfound s (mem_all s))

end Stage

/-! ## Replies to a start -/

namespace Service

/-- The texts of a reply that gives the id of a query and does not deny its success. -/
inductive Started (id : Query.Id) (reply : String) : Prop
  | mk {members : List (String × Value)} {v : Value} (hrecord : Record members reply)
      (hplain : (Value.record members).isPlain Value.maxDepth = true) (hform : id.Form v)
      (hid : ("query_id", v) ∈ members) (hsuccess : ("success", .bool false) ∉ members)

theorem envelopeError?_of_not_mem {members : List (String × Value)}
    (h : ("success", .bool false) ∉ members) :
    envelopeError? (.record (members.map fun m => (m.1, m.2.settled))) = none := by
  unfold envelopeError?
  refine if_neg fun hfalse => h ?_
  obtain ⟨v, hget, hbool⟩ := Option.bind_eq_some_iff.mp hfalse
  have hv : v = .bool false := by
    cases v with
    | bool b => exact congrArg Value.bool (Option.some.inj hbool)
    | null | number | string | array | object => cases hbool
  obtain ⟨⟨name, v'⟩, hmem, heq⟩ := List.mem_map.mp (Value.mem_of_get? hget)
  cases heq
  exact Value.eq_bool_of_settled hv ▸ hmem

/-- **A start gives the id that its reply writes.** -/
theorem Started.interpret {id : Query.Id} {reply : String} {status : Http.Status}
    (h : Started id reply) (hstatus : status.isSuccess = true) :
    interpret .start (.answered status reply) = .ok id := by
  obtain ⟨hrecord, hplain, hform, hid, hsuccess⟩ := h
  rename_i members v
  have hbody : bodyOf reply = .record (members.map fun m => (m.1, m.2.settled)) := by
    rw [bodyOf_document hrecord.document hplain, Value.settled_record _ hrecord.nodup]
  have hid : startedId? (.record (members.map fun m => (m.1, m.2.settled))) = some id := by
    have hnodup : ((members.map fun m => (m.1, m.2.settled)).map Prod.fst).Nodup := by
      rw [List.map_map]
      exact hrecord.nodup
    have hmem : ("query_id", v) ∈ members.map fun m => (m.1, m.2.settled) :=
      List.mem_map.mpr ⟨_, hid, by rw [hform.settled]⟩
    have hfield := fieldOf_of_mem hnodup hmem
    unfold startedId?
    rw [Value.fields?_eq, List.mapM_cons, hfield]
    exact hform.ofJson?
  have hfailure : failureOf? (.record (members.map fun m => (m.1, m.2.settled))) status =
      none := by
    unfold failureOf?
    rw [envelopeError?_of_not_mem hsuccess]
    exact if_pos hstatus
  have hreceive : receive .start (.answered status reply) =
      .ok (.record (members.map fun m => (m.1, m.2.settled))) := by
    show classify .start status reply = _
    unfold classify
    rw [hbody]
    dsimp only
    rw [hfailure]
    rfl
  unfold Service.interpret
  dsimp only
  rw [hreceive]
  dsimp only
  rw [hid]

end Service

/-! ## Wire forms -/

namespace Notification

/-- The values that stand for the data of a wire form. -/
inductive DataForm (members : List (String × Value)) : Option String → Prop
  | text {data : String} (h : ("data", .text data) ∈ members) : DataForm members (some data)
  | null (h : ("data", .null) ∈ members) : DataForm members none
  | absent (h : ∀ v, ("data", v) ∉ members) : DataForm members none

/-- The texts of a wire form: records with its fields, in any order and among any other members. -/
inductive Wire.Written (w : Wire) (s : String) : Prop
  | mk {members : List (String × Value)} {id : Value} (hrecord : Record members s)
      (hform : w.id.Form id) (hid : ("id", id) ∈ members)
      (htype : ("type", .text w.type) ∈ members) (hdata : DataForm members w.data)

theorem DataForm.read {members : List (String × Value)} {data : Option String}
    (h : DataForm members data) (hnodup : (members.map Prod.fst).Nodup) :
    ∃ field, fieldOf (members.map fun (name, value) => (some name, value)) "data" = some field ∧
      withDefault none dataOfJson? field = some data := by
  cases h with
  | text h => exact ⟨_, fieldOf_of_mem hnodup h, rfl⟩
  | null h => exact ⟨_, fieldOf_of_mem hnodup h, rfl⟩
  | absent h => exact ⟨_, fieldOf_of_not_mem h, rfl⟩

/-- **A wire form is read from every text of it.** -/
theorem Wire.Written.read {w : Wire} {s : String} (h : w.Written s) :
    (parse? s).bind Wire.ofJson? = some w := by
  obtain ⟨hrecord, hform, hid, htype, hdata⟩ := h
  rename_i members id
  obtain ⟨data, hfield, hdata⟩ := hdata.read hrecord.nodup
  have hid := fieldOf_of_mem hrecord.nodup hid
  have htype := fieldOf_of_mem hrecord.nodup htype
  have hfields : (Value.record members).fields? ["id", "type", "data"] =
      some [some id, some (.text w.type), data] := by
    rw [Value.fields?_eq, List.mapM_cons, List.mapM_cons, List.mapM_cons, hid, htype, hfield]
    rfl
  rw [hrecord.parse?, Option.bind_some, Wire.ofJson?, hfields]
  simp only [required, hform.ofJson?, hdata, Option.bind_eq_bind, Option.bind_some]
  rfl

/-- What is printed for a wire form is one of its texts. -/
theorem Wire.written_render (w : Wire) : w.Written w.toJson.render := by
  obtain ⟨id, type, data⟩ := w
  cases data with
  | none =>
    have hnodup : ["id", "type"].Nodup := by decide
    exact ⟨record_render hnodup rfl rfl, .text id, List.mem_cons_self .., by simp,
      .absent (by simp)⟩
  | some data =>
    have hnodup : ["id", "type", "data"].Nodup := by decide
    exact ⟨record_render hnodup rfl rfl, .text id, List.mem_cons_self .., by simp,
      .text (by simp)⟩

/-- An event with a text of a wire form carries what the wire form says. -/
theorem ofEvent_of_written {w : Wire} {s : String} (h : w.Written s) :
    ofEvent eventName s = match ofWire w with
      | .ok n => .ok (some n)
      | .error fault => .error (.notification fault) := by
  unfold ofEvent
  cases hw : ofWire w with
  | ok n => simp [h.read, hw]
  | error fault => simp [h.read, hw]

variable {id : Query.Id} {data s : String}

theorem ofEvent_stage (h : Wire.Written ⟨id, stageType, some data⟩ s) :
    ofEvent eventName s = match Stage.ofText? data with
      | some stage => .ok (some ⟨id, .stage stage⟩)
      | none => .error (.notification (.unknownStage data)) := by
  have hwire : ofWire ⟨id, stageType, some data⟩ =
      ((stageOf data).map News.stage).map fun news => ⟨id, news⟩ := rfl
  rw [ofEvent_of_written h, hwire, stageOf]
  cases Stage.ofText? data with
  | some stage => rfl
  | none => rfl

theorem query_of_ofEvent {w : Wire} {n : Notification} (h : w.Written s)
    (hn : ofEvent eventName s = .ok (some n)) : n.query = w.id := by
  rw [ofEvent_of_written h, ofWire] at hn
  cases hnews : newsOf w.type w.data with
  | error fault =>
    rw [hnews] at hn
    cases hn
  | ok news =>
    rw [hnews] at hn
    cases hn
    rfl

/-- **Notifications survive the wire.** -/
theorem survives_wire :
    (∀ n : Notification, n.toWire.Written n.toWire.toJson.render ∧
      ∀ s, n.toWire.Written s → ofEvent eventName s = .ok (some n)) ∧
    (∀ (id : Query.Id) (data s : String), Wire.Written ⟨id, stageType, some data⟩ s →
      (∀ stage : Stage,
        ofEvent eventName s = .ok (some ⟨id, .stage stage⟩) ↔ stage.IsNamed data) ∧
      ((∀ stage : Stage, ¬stage.IsNamed data) →
        ofEvent eventName s = .error (.notification (.unknownStage data)))) ∧
    ∀ k : Int, -2 ^ 63 ≤ k → k < 2 ^ 64 →
      Query.Id.Form ⟨toString k⟩ (.integer k) ∧ Query.Id.Form ⟨toString k⟩ (.text (toString k)) ∧
      ∀ (status : Http.Status) (reply : String), status.isSuccess = true →
        Service.Started ⟨toString k⟩ reply →
          Service.interpret .start (.answered status reply) = .ok ⟨toString k⟩ ∧
          ∀ (type : String) (data : Option String) (s : String) (n : Notification),
            Wire.Written ⟨⟨toString k⟩, type, data⟩ s → ofEvent eventName s = .ok (some n) →
              ∀ ns, n ∈ ns → n ∈ forQuery ⟨toString k⟩ ns := by
  refine ⟨fun n => ⟨n.toWire.written_render, fun s h => ?_⟩, fun id data s h => ?_,
    fun k hlow hhigh => ⟨.integer hlow hhigh, .text _, fun status reply hstatus hreply =>
      ⟨hreply.interpret hstatus, fun type data s n h hn ns hmem => ?_⟩⟩⟩
  · rw [ofEvent_of_written h, ofWire_toWire]
  · rw [ofEvent_stage h]
    constructor
    · intro stage
      rw [← Stage.ofText?_eq_some_iff]
      cases Stage.ofText? data with
      | some named => simp
      | none => simp
    · intro hnone
      rw [Stage.ofText?_eq_none hnone]
  · have hquery := query_of_ofEvent h hn
    exact List.mem_filter.mpr ⟨hmem, decide_eq_true hquery⟩

/-- A query that was started as the string of a number, and an event with the number itself whose
members stand in another order and whose stage is in small letters. -/
theorem survives_wire_in_either_form :
    Service.interpret .start (.answered .ok (Value.record [("query_id", .text "-7")]).render) =
      .ok ⟨"-7"⟩ ∧
    ofEvent eventName (Value.record [("data", .text " qs_ranked\t"), ("type", .text stageType),
      ("id", .integer (-7))]).render = .ok (some ⟨⟨"-7"⟩, .stage .ranked⟩) ∧
    (⟨⟨"-7"⟩, .stage .ranked⟩ : Notification) ∈ forQuery ⟨"-7"⟩
      [⟨⟨"7"⟩, .collectionFinished⟩, ⟨⟨"-7"⟩, .stage .ranked⟩] := by
  have hreply : Service.Started ⟨"-7"⟩ (Value.record [("query_id", .text "-7")]).render :=
    ⟨record_render (by decide) rfl rfl, rfl, .text ⟨"-7"⟩, List.mem_cons_self .., by simp⟩
  have hid : (⟨toString (-7 : Int)⟩ : Query.Id) = ⟨"-7"⟩ := rfl
  have hform : Query.Id.Form ⟨"-7"⟩ (.integer (-7)) := by
    rw [← hid]
    exact .integer (by decide) (by decide)
  have hevent : Wire.Written ⟨⟨"-7"⟩, stageType, some " qs_ranked\t"⟩
      (Value.record [("data", .text " qs_ranked\t"), ("type", .text stageType),
        ("id", .integer (-7))]).render := by
    refine ⟨record_render (by decide) rfl ?_, hform, by simp, by simp, .text (by simp)⟩
    rw [Value.reread_record]
    rfl
  obtain ⟨_, hstages, hids⟩ := survives_wire
  obtain ⟨_, _, hstart⟩ := hids (-7) (by decide) (by decide)
  obtain ⟨hstarted, hkept⟩ := hstart .ok _ rfl hreply
  have hread := ((hstages _ _ _ hevent).1 .ranked).mpr ⟨_, List.mem_cons_self .., by decide +kernel⟩
  exact ⟨hstarted, hread, hkept _ _ _ _ hevent hread _ (by simp)⟩

end Notification

end RankedSearch
