import RankedSearch.Proofs.Service.Requests

/-! # What the client and the server in memory say to each other

A call goes to the server as a request, is read there as a call, and its answer is printed, carried
back and read by the client. For the calls that open a query and bring it to its first page this is
computed here from end to end, for a server with one query and without failures. -/
namespace RankedSearch.Service

open RankedSearch.Json RankedSearch.Text

/-! ## Exchanges -/

/-- A call over the web: what becomes of the server, and what its caller is told. -/
def exchange {σ : Type} [Http.Server σ] (base : Url) (server : σ) (r : Request) :
    σ × Except Fault r.Reply :=
  let (server, answer) := Http.Server.receive server (r.toHttp base)
  (server, interpret r answer.delivery)

namespace Backend

theorem receive_of_call {b : Backend} {r : Http.Request} {call : Call}
    (h : Call.ofHttp r = .ok call) :
    Http.Server.receive b r = ((b.answer call).1,
      { delivery := .answered (b.answer call).2.1 (b.answer call).2.2.render }) := by
  simp only [Http.Server.receive, h]

theorem receive_of_refusal {b : Backend} {r : Http.Request} {status : Http.Status}
    (h : Call.ofHttp r = .error status) :
    Http.Server.receive b r = (b, { delivery := .answered status "" }) := by
  simp only [Http.Server.receive, h]

theorem exchange_of_call {base : Url} {b : Backend} {r : Request} {call : Call}
    (h : Call.ofHttp (r.toHttp base) = .ok call) :
    exchange base b r = ((b.answer call).1,
      interpret r (.answered (b.answer call).2.1 (b.answer call).2.2.render)) := by
  unfold exchange
  rw [receive_of_call h]

end Backend

/-- The id of the first query of a server. -/
def Backend.firstId : Query.Id := idFor 1

/-! ## Answers -/

/-- A document as a body: it is neither blank nor malformed. -/
theorem bodyOf_document {v : Value} {text : String} (h : Document v text)
    (hplain : v.isPlain Value.maxDepth = true) : bodyOf text = v.settled := by
  unfold bodyOf Value.ofText?
  rw [if_neg h.trim_ne, h.read, Option.bind_some, if_pos hplain]
  rfl

theorem bodyOf_render {members : List (String × Value)}
    (hwritten : (Value.record members).isWritten = true)
    (hplain : (Value.record members).reread.isPlain Value.maxDepth = true) :
    bodyOf (Value.record members).render = (Value.record members).readBack :=
  bodyOf_document (document_render hwritten) hplain

theorem bodyOf_accepted : bodyOf Backend.accepted.2.render = .record [("success", .bool true)] := by
  show bodyOf (Value.record [("success", .bool true)]).render = _
  rw [bodyOf_render rfl rfl]
  rfl

theorem interpret_start_accepted (id : Query.Id) :
    interpret .start (.answered .ok
      (Value.record [("success", .bool true), ("query_id", id.toJson)]).render) = .ok id := by
  have hbody : bodyOf (Value.record [("success", .bool true), ("query_id", id.toJson)]).render =
      .record [("success", .bool true), ("query_id", id.toJson)] := by
    rw [bodyOf_render rfl rfl]
    rfl
  simp only [interpret, receive, classify, hbody]
  rfl

theorem receive_accepted {kind : CallKind} :
    receive kind (.answered .ok Backend.accepted.2.render) =
      .ok (.record [("success", .bool true)]) := by
  show classify kind .ok Backend.accepted.2.render = _
  unfold classify
  rw [bodyOf_accepted]
  cases kind <;> rfl

theorem interpret_submit_accepted (id : Query.Id) (phrase : Query.Phrase) :
    interpret (.submit id phrase) (.answered .ok Backend.accepted.2.render) = .ok () := by
  simp only [interpret, receive_accepted]
  rfl

theorem interpret_train_accepted (id : Query.Id) :
    interpret (.train id) (.answered .ok Backend.accepted.2.render) = .ok () := by
  simp only [interpret, receive_accepted]
  rfl

theorem interpret_rank_accepted (id : Query.Id) :
    interpret (.rank id) (.answered .ok Backend.accepted.2.render) = .ok () := by
  simp only [interpret, receive_accepted]
  rfl

/-- A page that is sent is the page that arrives, but for its figures. -/
theorem interpret_page {page : Page} (h : page.isFinite = true) (id : Query.Id) (number : UInt32) :
    ∃ read : Page, interpret (.page id number) (.answered .ok
        (Value.record [("ranking", page.toJson)]).render) = .ok read ∧
      read.items.map Item.unscored = page.items.map Item.unscored ∧
      read.number = page.number ∧ read.count = page.count ∧ read.visited = page.visited := by
  obtain ⟨read, hread, hsame⟩ := Page.exists_ofJson? h
  refine ⟨read, ?_, hsame⟩
  have hbody : bodyOf (Value.record [("ranking", page.toJson)]).render =
      .record [("ranking", page.toJson.readBack)] := by
    rw [bodyOf_render]
    · exact Value.readBack_record (List.nodup_singleton _)
    · rw [Value.isWritten_record]
      simp [Page.isWritten_toJson]
    · rw [Value.reread_record]
      show (Value.record _).isPlain (126 + 1) = true
      rw [Value.isPlain_record]
      simp [Page.isPlain_toJson h]
  have hpage : rankedPage? (.record [("ranking", page.toJson.readBack)]) = some read := hread
  have hclass : classify .page .ok (Value.record [("ranking", page.toJson)]).render =
      .ok (.record [("ranking", page.toJson.readBack)]) := by
    simp only [classify, hbody]
    rfl
  simp only [interpret, receive, hclass, hpage]

/-! ## What the channel carries meanwhile -/

namespace Backend

theorem sent_reach_reach (b : Backend) (id : Query.Id) (first last : Stage) :
    ((b.reach id first).reach id last).sent =
      b.sent ++ [⟨id, .stage first⟩, ⟨id, .stage last⟩] := List.append_assoc ..

theorem exists_sent_carryOut (b : Backend) (call : Call) :
    ∃ news, (b.carryOut call).1.sent = b.sent ++ news ∧ news.length ≤ 2 := by
  cases call with
  | start | release _ => exact ⟨[], (List.append_nil _).symm, Nat.zero_le _⟩
  | submit id _ | flag id _ _ | page id _ =>
    refine ⟨[], ?_, Nat.zero_le _⟩
    dsimp only [carryOut]
    split <;> exact (List.append_nil _).symm
  | train id | rank id =>
    dsimp only [carryOut]
    split
    · exact ⟨_, sent_reach_reach .., Nat.le_refl 2⟩
    · exact ⟨[], (List.append_nil _).symm, Nat.zero_le _⟩

theorem exists_sent_answer (b : Backend) (call : Call) :
    ∃ news, (b.answer call).1.sent = b.sent ++ news ∧ news.length ≤ 2 := by
  unfold answer
  dsimp only
  by_cases hfailing : b.failing.contains call.kind = true
  · rw [if_pos hfailing]
    exact ⟨[], (List.append_nil _).symm, Nat.zero_le _⟩
  · rw [if_neg hfailing]
    exact exists_sent_carryOut { b with calls := call.kind :: b.calls } call

/-- An answer comes with two notifications at most. -/
theorem exists_sent_exchange (base : Url) (b : Backend) (r : Request) :
    ∃ news, (exchange base b r).1.sent = b.sent ++ news ∧ news.length ≤ 2 := by
  cases hcall : Call.ofHttp (r.toHttp base) with
  | error status =>
    refine ⟨[], ?_, Nat.zero_le _⟩
    unfold exchange
    rw [receive_of_refusal hcall, List.append_nil]
  | ok call =>
    rw [exchange_of_call hcall]
    exact exists_sent_answer b call

end Backend

/-! ## One query on the server -/

namespace Backend

/-- A server without failures that has one query. -/
structure Hosts (pages : List (List Item)) (h : Hosted) (b : Backend) : Prop where
  pages : b.pages = pages
  failing : b.failing = []
  queries : b.queries = [(firstId, h)]

/-- What the channel tells at the end of data collection. -/
def collected : List Notification :=
  [⟨firstId, .imageProcessed "trs/0.jpg"⟩, ⟨firstId, .imageProcessed "trs/1.jpg"⟩,
    ⟨firstId, .collectionFinished⟩, ⟨firstId, .stage .dataCollectionComplete⟩]

variable {pages : List (List Item)} {h : Hosted} {b : Backend} {base : Url}

namespace Hosts

theorem count (hb : Hosts pages h b) (kind : CallKind) :
    Hosts pages h { b with calls := kind :: b.calls } := ⟨hb.pages, hb.failing, hb.queries⟩

theorem hosted?_eq (hb : Hosts pages h b) : b.hosted? firstId = some h := by
  unfold hosted?
  rw [hb.queries]
  exact List.lookup_cons_self

theorem modify_eq (hb : Hosts pages h b) (f : Hosted → Hosted) :
    b.modify firstId f = { b with queries := [(firstId, f h)] } := by
  unfold modify
  rw [hb.queries, List.map_singleton]
  dsimp only
  rw [if_pos rfl]

theorem reach_eq (hb : Hosts pages h b) (stage : Stage) :
    b.reach firstId stage =
      { b with
        queries := [(firstId, { h with stage })]
        sent := b.sent ++ [⟨firstId, .stage stage⟩] } := by
  unfold reach
  rw [hb.modify_eq]
  rfl

theorem reach (hb : Hosts pages h b) (stage : Stage) :
    Hosts pages { h with stage } (b.reach firstId stage) := by
  rw [hb.reach_eq]
  exact ⟨hb.pages, hb.failing, rfl⟩

theorem notify (hb : Hosts pages h b) (n : Notification) : Hosts pages h (b.notify n) :=
  ⟨hb.pages, hb.failing, hb.queries⟩

theorem completeCollection_eq (hb : Hosts pages h b) :
    b.completeCollection firstId =
      { b with
        queries := [(firstId, { h with stage := .dataCollectionComplete })]
        sent := b.sent ++ collected } := by
  unfold completeCollection
  rw [(((hb.notify _).notify _).notify _).reach_eq]
  simp only [Backend.notify, List.append_assoc]
  rfl

theorem answer_eq (hb : Hosts pages h b) (call : Call) :
    b.answer call = Backend.carryOut { b with calls := call.kind :: b.calls } call := by
  unfold answer
  simp [hb.failing]

/-- A call that brings the query to two stages, one after the other. -/
theorem answer_stages (hb : Hosts pages h b) {call : Call} {first last : Stage}
    (hcall : ∀ b : Backend, (b.hosted? firstId).isSome = true →
      b.carryOut call = ((b.reach firstId first).reach firstId last, accepted)) :
    b.answer call =
      ({ b with
          calls := call.kind :: b.calls
          queries := [(firstId, { h with stage := last })]
          sent := b.sent ++ [⟨firstId, .stage first⟩, ⟨firstId, .stage last⟩] }, accepted) := by
  have hcounted := hb.count call.kind
  have hhosted : (hosted? { b with calls := call.kind :: b.calls } firstId).isSome = true := by
    rw [hcounted.hosted?_eq]
    rfl
  rw [hb.answer_eq, hcall _ hhosted, (hcounted.reach first).reach_eq, hcounted.reach_eq,
    List.append_assoc]
  rfl

end Hosts

theorem exchange_start (hbase : IsRoot base) (pages : List (List Item)) :
    exchange base ({ pages } : Backend) .start =
      ({ pages, queries := [(firstId, {})], calls := [.start], allocated := 1 }, .ok firstId) := by
  have hcall : Call.ofHttp (Request.start.toHttp base) = .ok .start :=
    ofHttp_toHttp hbase (by rintro _ ⟨⟩)
  rw [exchange_of_call hcall]
  exact congrArg (_, ·) (interpret_start_accepted firstId)

theorem exchange_submit (hbase : IsRoot base) (hb : Hosts pages h b) (phrase : Query.Phrase) :
    exchange base b (.submit firstId phrase) =
      ({ b with
          calls := .submit :: b.calls
          queries := [(firstId, { h with text := some phrase.words })] }, .ok ()) := by
  have hcall : Call.ofHttp ((Request.submit firstId phrase).toHttp base) =
      .ok (.submit firstId phrase.words) := ofHttp_toHttp hbase (isSendable_idFor rfl)
  have hanswer : b.answer (.submit firstId phrase.words) =
      ({ b with
          calls := .submit :: b.calls
          queries := [(firstId, { h with text := some phrase.words })] }, accepted) := by
    have hcounted := hb.count .submit
    rw [hb.answer_eq]
    simp only [carryOut, Call.kind, hcounted.hosted?_eq, Option.isSome_some, if_true,
      hcounted.modify_eq]
  rw [exchange_of_call hcall, hanswer]
  exact congrArg (_, ·) (interpret_submit_accepted firstId phrase)

/-- Training is over as soon as it is asked for. -/
theorem exchange_train (hbase : IsRoot base) (hb : Hosts pages h b) :
    exchange base b (.train firstId) =
      ({ b with
          calls := .train :: b.calls
          queries := [(firstId, { h with stage := .trained })]
          sent := b.sent ++ [⟨firstId, .stage .training⟩, ⟨firstId, .stage .trained⟩] },
        .ok ()) := by
  have hcall : Call.ofHttp ((Request.train firstId).toHttp base) = .ok (.train firstId) :=
    ofHttp_toHttp hbase (isSendable_idFor rfl)
  have hanswer := @Hosts.answer_stages _ _ _ hb (.train firstId) _ _ fun b hosted => if_pos hosted
  rw [exchange_of_call hcall, hanswer]
  exact congrArg (_, ·) (interpret_train_accepted firstId)

/-- Ranking is over as soon as it is asked for. -/
theorem exchange_rank (hbase : IsRoot base) (hb : Hosts pages h b) :
    exchange base b (.rank firstId) =
      ({ b with
          calls := .rank :: b.calls
          queries := [(firstId, { h with stage := .ranked })]
          sent := b.sent ++ [⟨firstId, .stage .ranking⟩, ⟨firstId, .stage .ranked⟩] }, .ok ()) := by
  have hcall : Call.ofHttp ((Request.rank firstId).toHttp base) = .ok (.rank firstId) :=
    ofHttp_toHttp hbase (isSendable_idFor rfl)
  have hanswer := @Hosts.answer_stages _ _ _ hb (.rank firstId) _ _ fun b hosted => if_pos hosted
  rw [exchange_of_call hcall, hanswer]
  exact congrArg (_, ·) (interpret_rank_accepted firstId)

/-- Whether the scores of a ranking are finite. -/
def areFinite (pages : List (List Item)) : Bool := pages.all (·.all (·.score.isFinite))

theorem isFinite_flaggedPage (hfinite : areFinite pages = true) (flags : Flags)
    (number : UInt32) : (flaggedPage pages flags number).isFinite = true := by
  have hitems : (pages.getD (number.toNat - 1) []).all (·.score.isFinite) = true := by
    rw [List.getD_eq_getElem?_getD]
    cases hpage : pages[number.toNat - 1]? with
    | none => rfl
    | some items => exact List.all_eq_true.mp hfinite items (List.mem_of_getElem? hpage)
  have hprecisions : (flaggedPage pages flags number).precisions.all (·.isFinite) = true := by
    have hshare := Number.Single.isFinite_divNat flags.missed.toNat_lt (show 0 < 100 by decide)
    refine List.all_eq_true.mpr fun x hx => ?_
    rw [List.eq_of_mem_replicate hx]
    exact hshare
  have hdistractors :
      (flaggedPage pages flags number).distractorPrecisions.all (·.isFinite) = true := by
    show (List.replicate 100 Number.Single.zero).all _ = true
    decide +kernel
  unfold Page.isFinite
  rw [hprecisions, hdistractors, Bool.and_true, Bool.and_true]
  show ((pages.getD (number.toNat - 1) []).map _).all _ = true
  rw [List.all_map]
  exact hitems

/-- A ranking has a first page, be it an empty one. -/
theorem inRange_one (hcount : pages.length < UInt32.size) : inRange pages 1 = true := by
  have hmax : max pages.length 1 < UInt32.size := Nat.max_lt.mpr ⟨hcount, by decide⟩
  have hle : (1 : UInt32) ≤ UInt32.ofNat (max pages.length 1) := by
    rw [UInt32.le_iff_toNat_le, UInt32.toNat_ofNat_of_lt' hmax]
    exact Nat.le_max_right ..
  unfold inRange
  simpa using hle

/-- The first page of a ranked query arrives with the paths that the server holds. -/
theorem exchange_firstPage (hbase : IsRoot base) (hb : Hosts pages h b) (hstage : h.stage = .ranked)
    (hflags : h.flags = []) (hcount : pages.length < UInt32.size)
    (hfinite : areFinite pages = true) :
    ∃ page : Page, exchange base b (.page firstId 1) =
        ({ b with calls := .page :: b.calls }, .ok page) ∧
      page.number = 1 ∧ page.items.map (·.path) = (pages.getD 0 []).map (·.path) := by
  have hcall : Call.ofHttp ((Request.page firstId 1).toHttp base) = .ok (.page firstId 1) :=
    ofHttp_toHttp hbase (isSendable_idFor rfl)
  have hanswer : b.answer (.page firstId 1) = ({ b with calls := .page :: b.calls },
      (.ok, .record [("ranking", (flaggedPage pages [] 1).toJson)])) := by
    have hcounted := hb.count .page
    have hrange := inRange_one hcount
    rw [← hb.pages] at hrange
    rw [hb.answer_eq]
    simp only [carryOut, Call.kind, hcounted.hosted?_eq, pageReply, hstage, ne_eq,
      not_true_eq_false, if_false, hrange, if_true, hflags]
    rw [hb.pages]
  obtain ⟨page, hpage, hitems, hnumber, _⟩ :=
    interpret_page (isFinite_flaggedPage hfinite [] 1) firstId 1
  refine ⟨page, ?_, hnumber, ?_⟩
  · rw [exchange_of_call hcall, hanswer]
    exact congrArg (_, ·) hpage
  · have hpaths := congrArg (List.map Item.path) hitems
    rw [List.map_map, List.map_map] at hpaths
    refine hpaths.trans ?_
    show ((pages.getD 0 []).map _).map _ = _
    rw [List.map_map]
    rfl

end Backend

end RankedSearch.Service
