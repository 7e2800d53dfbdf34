import RankedSearch.Proofs.Json.Records
import RankedSearch.Proofs.Text.FormEncoding
import RankedSearch.Proofs.Url.Segments
import RankedSearch.Service.Backend
import RankedSearch.Service.Client

/-! # Requests are read as the calls they make

The client writes a call as a path with escapes, a query and a body; the server in memory takes the
path apart again, undoes the escapes and reads the rest. It reads the call that was made, whatever
the words and paths in it and whatever the id, as long as the id can stand in a path at all. -/
namespace RankedSearch.Service

open RankedSearch.Json RankedSearch.Text

/-- A call that nothing else interferes with: what becomes of the service, and what the caller is
told, unless it waits forever or is brought down. -/
def call? {σ : Type} [QueryService σ] (s : σ) (r : Request) : Option (σ × Except Fault r.Reply) :=
  let reception := QueryService.receive s r
  match reception.wait, reception.conclude reception.service with
  | some _, (s, .returned result) => some (s, result)
  | _, _ => none

theorem call?_eq_some {σ : Type} [QueryService σ] {s s' : σ} {r : Request}
    {result : Except Fault r.Reply} (h : call? s r = some (s', result)) :
    (QueryService.receive s r).conclude (QueryService.receive s r).service =
      (s', .returned result) := by
  unfold call? at h
  dsimp only at h
  split at h
  · rename_i hconcluded
    cases h
    exact hconcluded
  · cases h

/-! ## Escapes in a path -/

/-- The texts that a path takes in as one segment and gives back: no text that is empty or made of
one or two points, and none with tabs or line ends. -/
structure IsSegment (text : String) : Prop where
  nonempty : text ≠ ""
  point : text ≠ "."
  points : text ≠ ".."
  unbroken : ∀ c ∈ text.toList, c ≠ '\t' ∧ c ≠ '\n' ∧ c ≠ '\r'

/-- A segment as it stands in a path. -/
def escaped (text : String) : String := Percent.encode (Url.keptInSegment .web) text

/-- **Escapes are undone.** -/
theorem unescape_escaped (text : String) : Percent.unescape (utf8 (escaped text)) = utf8 text :=
  Url.unescape_written .web text

theorem not_mem_escaped (text : String) :
    '/' ∉ (escaped text).toList ∧ '?' ∉ (escaped text).toList :=
  Url.not_mem_written .web text

namespace IsSegment

variable {text : String}

theorem bare (h : IsSegment text) : Url.bare text = text := Url.bare_eq_self_iff.mpr h.unbroken

theorem not_dots (h : IsSegment text) : ¬(text = "." ∨ text = "..") :=
  not_or.mpr ⟨h.point, h.points⟩

theorem written_ne (h : IsSegment text) (kind : Url.Kind) : Url.written kind text ≠ "" := by
  intro hempty
  have htext : utf8 text = utf8 "" := Url.eq_of_written hempty
  exact h.nonempty (utf8_injective htext)

theorem escaped_ne (h : IsSegment text) : escaped text ≠ "" := h.written_ne .web

theorem appended (h : IsSegment text) (kind : Url.Kind) (segments : List String) :
    Url.appended kind segments text = segments ++ [Url.written kind text] :=
  Url.appended_of_bare segments h.not_dots h.bare

end IsSegment

/-! ## Targets -/

/-- The address of a server that is asked at its root. -/
structure IsRoot (base : Url) : Prop where
  scheme : base.scheme = "http"
  segments : base.segments = [""]
  query : base.query = none

example : ∃ base, Url.ofText "http://127.0.0.1:8080" = .ok base ∧ IsRoot base :=
  ⟨_, rfl, rfl, rfl, rfl⟩

/-- Segments that are added to a base stand behind its path as they are written. -/
theorem foldl_push {base : Url} (hbase : base.IsSettled) {tail segments : List String}
    (hne : tail ≠ []) (hhead : tail.head? ≠ some "") (h : ∀ segment ∈ segments, IsSegment segment) :
    segments.foldl Url.push (base.plus tail) =
      base.plus (tail ++ segments.map (Url.written base.kind)) := by
  induction segments generalizing tail with
  | nil => rw [List.foldl_nil, List.map_nil, List.append_nil]
  | cons segment segments ih =>
    obtain ⟨hsegment, hrest⟩ := List.forall_mem_cons.mp h
    have hhead' : (tail ++ [Url.written base.kind segment]).head? ≠ some "" := by
      rwa [List.head?_append_of_ne_nil _ hne]
    rw [List.foldl_cons, Url.push_plus hbase hne hhead, hsegment.appended,
      ih (List.append_ne_nil_of_left_ne_nil hne _) hhead' hrest, List.append_assoc,
      List.singleton_append, List.map_cons]

/-- The query of a request, on top of a base without one. -/
def Request.form (r : Request) : Option String :=
  match r.parameters with
  | [] => none
  | pairs => some (FormEncoding.encode pairs)

namespace IsRoot

variable {base : Url}

theorem kind (hbase : IsRoot base) : base.kind = .web := by
  unfold Url.kind
  rw [hbase.scheme]
  decide +kernel

theorem stem (hbase : IsRoot base) : base.stem = [] := by
  unfold Url.stem
  rw [hbase.segments]
  rfl

theorem extend (hbase : IsRoot base) {segments : List String} (hne : segments ≠ [])
    (h : ∀ segment ∈ segments, IsSegment segment) :
    base.extend segments = { base with segments := segments.map escaped } := by
  have hfile : base.kind ≠ .file := by
    rw [hbase.kind]
    exact nofun
  have hsettled := Url.isSettled_of_kind hfile
  cases segments with
  | nil => exact absurd rfl hne
  | cons segment segments =>
    obtain ⟨hsegment, hrest⟩ := List.forall_mem_cons.mp h
    have hhead : [Url.written base.kind segment].head? ≠ some "" :=
      fun hempty => hsegment.written_ne base.kind (Option.some.inj hempty)
    rw [Url.extend_cons hsettled hsegment.not_dots hsegment.bare (fun hkind => absurd hkind hfile),
      foldl_push hsettled (List.cons_ne_nil _ _) hhead hrest, hbase.kind]
    unfold Url.plus
    rw [hbase.stem]
    rfl

theorem url (hbase : IsRoot base) {r : Request}
    (h : ∀ segment ∈ r.segments, IsSegment segment) :
    r.url base = { base with segments := r.segments.map escaped, query := r.form } := by
  have hne : r.segments ≠ [] := by cases r <;> exact List.cons_ne_nil _ _
  unfold Request.url Request.form
  rw [hbase.extend hne h]
  dsimp only
  rw [hbase.query]
  cases r.parameters with
  | nil =>
    have hquery := hbase.query
    obtain ⟨scheme, authority, segments, query, fragment⟩ := base
    cases hquery
    rfl
  | cons pair pairs => rfl

/-- The server takes the path of a request apart into its segments, and the query from it. -/
theorem segmentsOf_target (hbase : IsRoot base) {r : Request}
    (h : ∀ segment ∈ r.segments, IsSegment segment) :
    Backend.segmentsOf (r.url base).target = r.segments.map escaped ∧
      (Backend.splitTarget (r.url base).target).2 = r.form.getD "" := by
  have hpath : (r.url base).path.toList =
      (r.segments.map escaped).flatMap fun segment => '/' :: segment.toList := by
    rw [hbase.url h, Url.toList_path]
  have hslash : ∀ segment ∈ r.segments.map escaped, '/' ∉ segment.toList := by
    intro segment hsegment
    obtain ⟨text, _, rfl⟩ := List.mem_map.mp hsegment
    exact (not_mem_escaped text).1
  have hquestion : '?' ∉ (r.url base).path.toList := by
    rw [hpath, List.mem_flatMap]
    rintro ⟨segment, hsegment, hmem⟩
    obtain ⟨text, _, rfl⟩ := List.mem_map.mp hsegment
    rcases List.mem_cons.mp hmem with hc | hc
    · cases hc
    · exact (not_mem_escaped text).2 hc
  have hsplit : splitFirst '?' (r.url base).target.toList =
      ((r.url base).path.toList, (r.form.getD "").toList) := by
    have hform : (r.url base).query = r.form := by rw [hbase.url h]
    unfold Url.target
    rw [hform, String.toList_append]
    cases r.form with
    | none => simpa using splitFirst_of_not_mem hquestion
    | some form => simpa using splitFirst_append hquestion form.toList
  unfold Backend.segmentsOf Backend.splitTarget
  rw [hsplit]
  refine ⟨?_, String.ofList_toList⟩
  have hpieces := Url.pieces_flatMap _ hslash (@List.not_mem_nil _ '/')
  rw [List.nil_append, ← hpath] at hpieces
  dsimp only
  rw [String.toList_ofList, hpieces, List.drop_one, List.tail_cons, List.map_map]
  exact List.map_id'' (fun _ => String.ofList_toList) _

end IsRoot

/-! ## Calls -/

/-- The call that a request makes. -/
def Request.call : Request → Backend.Call
  | .start => .start
  | .submit id phrase => .submit id phrase.words
  | .train id => .train id
  | .rank id => .rank id
  | .page id number => .page id number
  | .flag id path value => .flag id path value
  | .release id => .release id

/-- The words that paths are made of, besides ids. -/
def pathWords : List String :=
  ["api", "query", "fns", "start_query", "add_trs", "train", "rank", "ranking", "free"]

theorem isSegment_word : ∀ text ∈ pathWords, IsSegment text := by
  have hall : ∀ text ∈ pathWords, text ≠ "" ∧ text ≠ "." ∧ text ≠ ".." ∧
      (text.toList.all fun c => c ≠ '\t' ∧ c ≠ '\n' ∧ c ≠ '\r') = true := by
    decide +kernel
  intro text h
  obtain ⟨hnonempty, hpoint, hpoints, hunbroken⟩ := hall text h
  refine ⟨hnonempty, hpoint, hpoints, fun c hc => ?_⟩
  exact of_decide_eq_true (List.all_eq_true.mp hunbroken c hc)

theorem escaped_word : ∀ text ∈ pathWords, escaped text = text := by decide +kernel

namespace Request

/-- Whether the id of a request, if it has one, can stand in a path. -/
def IsSendable (r : Request) : Prop := ∀ id, r.query? = some id → IsSegment id.text

theorem IsSendable.segments {r : Request} (h : r.IsSendable) :
    ∀ segment ∈ r.segments, IsSegment segment := by
  have hwords := isSegment_word
  simp only [pathWords, List.forall_mem_cons] at hwords
  cases r with
  | start => simp [Request.segments, hwords]
  | submit id _ | train id | rank id | page id _ | flag id _ _ | release id =>
    simp [Request.segments, hwords, h id rfl]

end Request

namespace Backend

theorem idOf_escaped (id : Query.Id) : idOf (escaped id.text) = .ok id := by
  unfold idOf
  rw [unescape_escaped, ofUtf8?_utf8]

/-- The body of a request arrives. -/
theorem jsonBody_toHttp {base : Url} {r : Request} {v : Value} (h : r.payload = some v)
    (hv : v.isWritten = true) : jsonBody (r.toHttp base) = .ok v.reread := by
  have hkind : isJson Http.jsonType = true := by decide +kernel
  simp only [jsonBody, Request.toHttp, h, Option.map_some, Option.any_some, hkind, if_true,
    Option.getD_some, parse?_render hv]

/-- The digits of a page are read as its number. -/
theorem pageNumber?_digits (number : UInt32) :
    pageNumber? (String.ofList (Nat.toDigits 10 number.toNat)) = some number := by
  obtain ⟨c, ds, hcons, hc⟩ := Parser.exists_nat_cons number.toNat
  have hvalue := Parser.natOf_nat number.toNat
  have hdigits : (Nat.toDigits 10 number.toNat).all Char.isDigit = true :=
    List.all_eq_true.mpr fun c => Parser.isDigit_of_mem_nat
  have hplus : c ≠ '+' := Parser.ne_of_isDigit hc rfl
  unfold Parser.natOf at hvalue
  unfold Printer.nat at hcons hvalue
  rw [hcons] at hvalue hdigits
  unfold pageNumber?
  rw [String.toList_ofList, hcons]
  have hsize : number.toNat < UInt32.size := number.toNat_lt
  split
  · rename_i heq
    cases heq
    exact absurd rfl hplus
  · dsimp only
    rw [hvalue, hdigits]
    simp [hsize]

theorem pageOf_target {base : Url} (hbase : IsRoot base) {id : Query.Id} (number : UInt32)
    (h : (Request.page id number).IsSendable) :
    pageOf ((Request.page id number).url base).target = .ok number := by
  obtain ⟨_, hquery⟩ := hbase.segmentsOf_target h.segments
  have hform : FormEncoding.decode ((Request.page id number).form.getD "") =
      [("page", String.ofList (Nat.toDigits 10 number.toNat))] := FormEncoding.decode_encode _
  unfold pageOf
  rw [hquery, hform]
  simp only [List.filter_cons, decide_true, if_true, List.filter_nil, pageNumber?_digits]

theorem flagOf_payload (id : Query.Id) (path : String) (value : Bool) :
    flagOf id (.record [("path", .text path), ("value", .nat (if value then 1 else 0))]) =
      .ok (.flag id path value) := by
  cases value with
  | true => rfl
  | false => rfl

/-- **Every request is read as the call it makes.** -/
theorem ofHttp_toHttp {base : Url} (hbase : IsRoot base) {r : Request} (h : r.IsSendable) :
    Call.ofHttp (r.toHttp base) = .ok r.call := by
  obtain ⟨hsegments, _⟩ := hbase.segmentsOf_target h.segments
  have hid (id : Query.Id) (hquery : r.query? = some id) : escaped id.text ≠ "" :=
    (h id hquery).escaped_ne
  have hwords := escaped_word
  simp only [pathWords, List.forall_mem_cons] at hwords
  have htarget : segmentsOf (r.toHttp base).target = r.segments.map escaped := hsegments
  cases r with
  | start =>
    simp only [Request.segments, List.map_cons, List.map_nil, hwords] at htarget
    unfold Call.ofHttp
    rw [htarget]
    conv_lhs => simp_match
    rfl
  | submit id phrase =>
    simp only [Request.segments, List.map_cons, List.map_nil, hwords] at htarget
    unfold Call.ofHttp
    rw [htarget]
    conv_lhs => simp_match
    rw [if_neg (hid id rfl), idOf_escaped, jsonBody_toHttp rfl rfl]
    rfl
  | train id | rank id | release id =>
    simp only [Request.segments, List.map_cons, List.map_nil, hwords] at htarget
    unfold Call.ofHttp
    rw [htarget]
    conv_lhs => simp_match
    rw [if_neg (hid id rfl), idOf_escaped]
    rfl
  | page id number =>
    have hpage : pageOf ((Request.page id number).toHttp base).target = .ok number :=
      pageOf_target hbase number h
    simp only [Request.segments, List.map_cons, List.map_nil, hwords] at htarget
    unfold Call.ofHttp
    rw [htarget]
    conv_lhs => simp_match
    rw [if_neg (hid id rfl), idOf_escaped, hpage]
    rfl
  | flag id path value =>
    have hbody : jsonBody ((Request.flag id path value).toHttp base) =
        .ok (.record [("path", .text path), ("value", .nat (if value then 1 else 0))]) := by
      rw [jsonBody_toHttp rfl rfl]
      cases value <;> rfl
    simp only [Request.segments, List.map_cons, List.map_nil, hwords] at htarget
    unfold Call.ofHttp
    rw [htarget]
    conv_lhs => simp_match
    rw [if_neg (hid id rfl), idOf_escaped, hbody]
    exact flagOf_payload id path value

/-- The ids that the server gives out can stand in a path. -/
theorem isSegment_idFor (n : Nat) : IsSegment (idFor n).text := by
  have hchars : (idFor n).text.toList = '#' :: Nat.toDigits 10 n := String.toList_ofList
  have hne {text : String} (h : text.toList.head? ≠ some '#') : (idFor n).text ≠ text := by
    rintro rfl
    rw [hchars] at h
    exact h rfl
  refine ⟨hne (by decide), hne (by decide), hne (by decide), fun c hc => ?_⟩
  rw [hchars, List.mem_cons] at hc
  rcases hc with rfl | hc
  · decide
  · have hdigit : c.isDigit = true := Parser.isDigit_of_mem_nat hc
    exact ⟨Parser.ne_of_isDigit hdigit rfl, Parser.ne_of_isDigit hdigit rfl,
      Parser.ne_of_isDigit hdigit rfl⟩

theorem isSendable_idFor {r : Request} {n : Nat} (h : r.query? = some (idFor n)) :
    r.IsSendable := by
  intro id hid
  rw [h] at hid
  exact Option.some.inj hid ▸ isSegment_idFor n

end Backend

end RankedSearch.Service
