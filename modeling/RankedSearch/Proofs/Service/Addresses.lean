import RankedSearch.Proofs.Service.Requests

/-! # Where requests go

The address of a request is that of the base with the words of the call and the id of its query
behind it. Ids are put into the path as one segment, with escapes, and are found in it again; but a
path takes in no points alone, and no tabs and line ends, so that a few ids are lost on the way. -/
namespace RankedSearch.Service

open RankedSearch.Text

/-- The texts that a path gives back as they were. Unlike a segment, such a text may be empty. -/
structure IsAddressable (text : String) : Prop where
  point : text ≠ "."
  points : text ≠ ".."
  unbroken : ∀ c ∈ text.toList, c ≠ '\t' ∧ c ≠ '\n' ∧ c ≠ '\r'

theorem isAddressable_iff {text : String} :
    IsAddressable text ↔ ¬(text = "." ∨ text = "..") ∧ Url.bare text = text := by
  rw [Url.bare_eq_self_iff, not_or]
  exact ⟨fun ⟨hpoint, hpoints, hunbroken⟩ => ⟨⟨hpoint, hpoints⟩, hunbroken⟩,
    fun ⟨⟨hpoint, hpoints⟩, hunbroken⟩ => ⟨hpoint, hpoints, hunbroken⟩⟩

/-- What a segment of a path says. -/
def spoken (segment : String) : Bytes := Percent.unescape (utf8 segment)

theorem spoken_written (kind : Url.Kind) (text : String) :
    spoken (Url.written kind text) = utf8 text :=
  Url.unescape_written kind text

/-- An empty segment says nothing. -/
theorem eq_empty_of_spoken {front back : List Bytes} {text : String}
    (h : front ++ [spoken ""] = back ++ [utf8 text]) : text = "" := by
  have hlast := congrArg List.getLast? h
  rw [List.getLast?_concat, List.getLast?_concat, Option.some.injEq] at hlast
  exact (utf8_injective hlast).symm

/-- A text of which only points are left leads somewhere, and an empty segment stands in its
place. -/
theorem spoken_points_iff {front : List String} {back : List Bytes} {text points : String}
    (hbare : Url.bare text = points) (hpoints : points ≠ "") (htext : text ≠ points) :
    (front ++ [""]).map spoken = back ++ [utf8 text] ↔ Url.bare text = text := by
  rw [List.map_append, List.map_singleton]
  refine iff_of_false (fun h => ?_) fun h => htext (h ▸ hbare)
  rw [eq_empty_of_spoken h] at hbare
  exact hpoints hbare.symm

/-- A text is found again in a path exactly if it is addressable. -/
theorem spoken_appended_iff (kind : Url.Kind) (front : List String) (text : String) :
    (Url.appended kind front text).map spoken = front.map spoken ++ [utf8 text] ↔
      IsAddressable text := by
  rw [isAddressable_iff]
  unfold Url.appended
  split
  · rename_i hdots
    refine iff_of_false (fun h => ?_) fun h => h.1 hdots
    have hlengths := congrArg List.length h
    simp at hlengths
  · rename_i hdots
    rw [and_iff_right hdots]
    obtain ⟨hpoint, hpoints⟩ := not_or.mp hdots
    split
    · rename_i hbare
      exact spoken_points_iff hbare (by decide) hpoints
    · split
      · rename_i hbare
        exact spoken_points_iff hbare (by decide) hpoint
      · rw [List.map_append, List.append_cancel_left_eq, List.map_singleton, spoken_written,
          List.singleton_inj]
        exact ⟨utf8_injective, congrArg utf8⟩

/-! ## Words around an id -/

theorem written_word (kind : Url.Kind) : ∀ word ∈ pathWords, Url.written kind word = word := by
  cases kind <;> decide +kernel

theorem map_written_words (kind : Url.Kind) {words : List String}
    (h : ∀ word ∈ words, word ∈ pathWords) : words.map (Url.written kind) = words := by
  have hwords := List.map_congr_left fun word hword => written_word kind word (h word hword)
  exact hwords.trans (List.map_id' words)

theorem spoken_words {words : List String} (h : ∀ word ∈ words, word ∈ pathWords) :
    words.map spoken = words.map utf8 := by
  refine List.map_congr_left fun word hword => ?_
  rw [← spoken_written .web word, written_word .web word (h word hword)]

/-- What is between two slashes of a target. -/
def IsWhole (segment : String) : Prop := '/' ∉ segment.toList ∧ '?' ∉ segment.toList

theorem isWhole_word {word : String} (h : word ∈ pathWords) : IsWhole word :=
  written_word .web word h ▸ Url.not_mem_written .web word

namespace Request

/-- A start is made of words, and every other call has the id of its query in third place. -/
theorem segments_cases (r : Request) :
    (r.query? = none ∧ r.segments = ["api", "query", "start_query"]) ∨
      ∃ id area verbs, r.query? = some id ∧ r.segments = "api" :: area :: id.text :: verbs ∧
        ∀ word ∈ area :: verbs, word ∈ pathWords := by
  cases r with
  | start => exact .inl ⟨rfl, rfl⟩
  | submit id _ | train id | rank id | page id _ | flag id _ _ | release id =>
    exact .inr ⟨id, _, _, rfl, rfl, by decide +kernel⟩

/-- The call and the query can be told from the segments. -/
theorem eq_of_segments {r r' : Request} (h : r.segments = r'.segments) :
    r.kind = r'.kind ∧ r.query? = r'.query? := by
  have hid {id id' : Query.Id} (h : id.text = id'.text) : id = id' := by
    cases id
    exact congrArg _ h
  cases r <;> cases r' <;> simp [segments, kind, query?] at h ⊢ <;> exact hid h

end Request

/-! ## Behind a base -/

section Behind

variable {base : Url}

theorem extend_api (hbase : base.IsSettled) (texts : List String) :
    base.extend ("api" :: texts) = texts.foldl Url.push (base.plus ["api"]) := by
  have hword : "api" ∈ pathWords := by decide
  have hsegment := isSegment_word _ hword
  have hwritten := written_word base.kind _ hword
  have hdrive : Url.isDrive (Url.written base.kind "api") = false := by
    rw [hwritten]
    decide
  rw [Url.extend_cons hbase hsegment.not_dots hsegment.bare (fun _ => hdrive), hwritten]

theorem foldl_push_words (hbase : base.IsSettled) {tail words : List String} (hne : tail ≠ [])
    (hhead : tail.head? ≠ some "") (h : ∀ word ∈ words, word ∈ pathWords) :
    words.foldl Url.push (base.plus tail) = base.plus (tail ++ words) := by
  rw [foldl_push hbase hne hhead fun word hword => isSegment_word word (h word hword),
    map_written_words base.kind h]

/-- An id comes between words. -/
theorem extend_between (hbase : base.IsSettled) {area : String} {verbs : List String}
    (h : ∀ word ∈ area :: verbs, word ∈ pathWords) (text : String) :
    base.extend ("api" :: area :: text :: verbs) =
      base.plus (Url.appended base.kind ["api", area] text ++ verbs) := by
  obtain ⟨harea, hverbs⟩ := List.forall_mem_cons.mp h
  have hhead := Url.head?_appended base.kind "api" area [] text
  have hne : Url.appended base.kind ["api", area] text ≠ [] := by
    intro hnil
    rw [hnil] at hhead
    cases hhead
  have hfront : (base.plus ["api"]).push area = base.plus ["api", area] :=
    @foldl_push_words _ hbase ["api"] [area] (by decide) (by decide)
      (List.forall_mem_singleton.mpr harea)
  rw [extend_api hbase, List.foldl_cons, hfront, List.foldl_cons,
    Url.push_plus hbase (by simp) (by simp), foldl_push_words hbase hne (by simp [hhead]) hverbs]

/-- What a request adds to its base, and when it says what it should. -/
theorem exists_tail (hbase : base.IsSettled) (r : Request) :
    ∃ tail, base.extend r.segments = base.plus tail ∧ (∀ segment ∈ tail, IsWhole segment) ∧
      (tail.map spoken = r.segments.map utf8 ↔
        ∀ id, r.query? = some id → IsAddressable id.text) := by
  rcases r.segments_cases with ⟨hquery, hsegments⟩ | ⟨id, area, verbs, hquery, hsegments, hwords⟩
  · have hwords : ∀ word ∈ ["api", "query", "start_query"], word ∈ pathWords := by decide +kernel
    rw [hsegments, hquery]
    refine ⟨_, ?_, fun segment hsegment => isWhole_word (hwords segment hsegment),
      iff_of_true (spoken_words hwords) nofun⟩
    exact (extend_api hbase _).trans (foldl_push_words hbase (by decide) (by decide)
      fun word hword => hwords word (List.mem_cons_of_mem _ hword))
  · obtain ⟨harea, hverbs⟩ := List.forall_mem_cons.mp hwords
    have hfront : ∀ word ∈ ["api", area], word ∈ pathWords :=
      List.forall_mem_cons.mpr ⟨by decide, List.forall_mem_singleton.mpr harea⟩
    refine ⟨_, hsegments ▸ extend_between hbase hwords id.text, fun segment hsegment => ?_, ?_⟩
    · rcases List.mem_append.mp hsegment with hsegment | hsegment
      · rcases Url.mem_appended hsegment with hsegment | rfl | ⟨other, rfl⟩
        · exact isWhole_word (hfront segment hsegment)
        · exact ⟨by decide, by decide⟩
        · exact Url.not_mem_written base.kind other
      · exact isWhole_word (hverbs segment hsegment)
    · have hcut : r.segments.map utf8 =
          (["api", area].map spoken ++ [utf8 id.text]) ++ verbs.map spoken := by
        rw [hsegments, spoken_words hfront, spoken_words hverbs]
        rfl
      rw [hcut, List.map_append, List.append_cancel_right_eq, spoken_appended_iff, hquery]
      exact ⟨fun h id' hid => Option.some.inj hid ▸ h, fun h => h id rfl⟩

end Behind

/-- The query of a request leaves the rest of its address as it is. -/
theorem url_eq (base : Url) (r : Request) :
    ∃ query, r.url base = { base.extend r.segments with query } := by
  unfold Request.url
  cases r.parameters with
  | nil => exact ⟨(base.extend r.segments).query, rfl⟩
  | cons pair pairs => exact ⟨_, rfl⟩

theorem isSettled_of_baseUrl {raw : String} {base : Url} (h : baseUrl raw = .ok base) :
    base.IsSettled := by
  unfold baseUrl at h
  split at h
  · rename_i hparsed
    cases h
    exact Url.isSettled_ofText hparsed
  · cases h
  · cases h

/-- **Where requests go.** A request goes to the server of its base, and its path is that of the base
with segments behind it that say the words of the call and the id of its query, exactly if that id
is addressable. Requests with such ids share a target only if they make the same call of the same
query. -/
theorem requests_addressed {raw : String} {base : Url} (hbase : baseUrl raw = .ok base)
    (r : Request) :
    (r.url base).scheme = base.scheme ∧ (r.url base).authority = base.authority ∧
    (base.segments = base.stem ∨ base.segments = base.stem ++ [""] ∨ base.segments = ["", ""]) ∧
    (∃ tail, (r.url base).segments = base.stem ++ tail ∧
      (tail.map spoken = r.segments.map utf8 ↔
        ∀ id, r.query? = some id → IsAddressable id.text)) ∧
    ∀ r' : Request, (∀ id, r.query? = some id → IsAddressable id.text) →
      (∀ id, r'.query? = some id → IsAddressable id.text) →
        (r.url base).target = (r'.url base).target → r.kind = r'.kind ∧ r.query? = r'.query? := by
  have hsettled := isSettled_of_baseUrl hbase
  obtain ⟨query, hurl⟩ := url_eq base r
  obtain ⟨tail, hextend, hwhole, hspoken⟩ := exists_tail hsettled r
  rw [hextend] at hurl
  refine ⟨hurl ▸ rfl, hurl ▸ rfl, base.segments_eq_stem, ⟨tail, hurl ▸ rfl, hspoken⟩, ?_⟩
  intro r' h h' htarget
  obtain ⟨query', hurl'⟩ := url_eq base r'
  obtain ⟨tail', hextend', hwhole', hspoken'⟩ := exists_tail hsettled r'
  rw [hextend'] at hurl'
  rw [hurl, hurl'] at htarget
  have htail : tail = tail' := Url.tail_eq_of_target hwhole hwhole' htarget
  apply Request.eq_of_segments
  have hsegments : r.segments.map utf8 = r'.segments.map utf8 := by
    rw [← hspoken.mpr h, ← hspoken'.mpr h', htail]
  exact List.map_injective_iff.mpr (fun _ _ => utf8_injective) hsegments

theorem requests_addressed_behind_prefix :
    ∃ base, baseUrl "http://visor.local/demo/" = .ok base ∧ base.stem = ["demo"] ∧
      IsAddressable "a/b c%" ∧
      ∃ tail, ((Request.train ⟨"a/b c%"⟩).url base).segments = ["demo"] ++ tail ∧
        tail.map spoken = ["api", "query", "a/b c%", "train"].map utf8 := by
  have haddressable : IsAddressable "a/b c%" := isAddressable_iff.mpr (by decide +kernel)
  have hbase : ∃ base, baseUrl "http://visor.local/demo/" = .ok base ∧ base.stem = ["demo"] :=
    ⟨_, rfl, rfl⟩
  obtain ⟨base, hbase, hstem⟩ := hbase
  obtain ⟨_, _, _, ⟨tail, hsegments, hspoken⟩, _⟩ :=
    requests_addressed hbase (.train ⟨"a/b c%"⟩)
  rw [hstem] at hsegments
  refine ⟨base, hbase, hstem, haddressable, tail, hsegments, hspoken.mpr fun id hid => ?_⟩
  cases Option.some.inj hid
  exact haddressable

/-- Ids get lost on the way: a tab is dropped, so that two queries have one address, and two points
are no segment, so that the request is not about a query at all. -/
theorem ids_share_an_address :
    ∃ base, baseUrl "http://visor.local/demo" = .ok base ∧
      ((Request.train ⟨"a\tb"⟩).url base).render = ((Request.train ⟨"ab"⟩).url base).render ∧
      ((Request.train ⟨".."⟩).url base).target = "/demo/api/query/train" :=
  ⟨_, rfl, by decide +kernel⟩

end RankedSearch.Service
