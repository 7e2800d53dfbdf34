import Mathlib.Data.List.DropRight
import RankedSearch.Text.Pieces
import RankedSearch.Url.Parser

/-! # Paths that grow

A path is added to by texts. Most of them become one segment each, with escapes for what a segment
cannot hold; but tabs and line ends are dropped, and points alone lead nowhere or back. What a text
does to a path is said once, in `appended`; a base that was read from a text keeps its path in front
of what is added (`push_plus`). -/
namespace RankedSearch.Url

open RankedSearch.Text

/-! ## One text -/

/-- What of a text gets into a path: all but tabs and line ends. -/
def bare (text : String) : String :=
  String.ofList (text.toList.filter fun c => !(c = '\t' || c = '\n' || c = '\r'))

/-- A text as one segment of a path. -/
def written (kind : Kind) (text : String) : String := Percent.encode (keptInSegment kind) text

/-- The segments of a path with one text more. -/
def appended (kind : Kind) (segments : List String) (text : String) : List String :=
  if text = "." ∨ text = ".." then segments
  else if bare text = ".." then shortened segments ++ [""]
  else if bare text = "." then segments ++ [""]
  else segments ++ [written kind (bare text)]

theorem appended_of_bare {kind : Kind} {text : String} (segments : List String)
    (hdots : ¬(text = "." ∨ text = "..")) (hbare : bare text = text) :
    appended kind segments text = segments ++ [written kind text] := by
  rw [not_or] at hdots
  unfold appended
  rw [if_neg (not_or.mpr hdots), hbare, if_neg hdots.2, if_neg hdots.1]

/-- What a text does to a path concerns its last segment only. -/
theorem appended_append {kind : Kind} {front tail : List String} (hne : tail ≠ [])
    (text : String) : appended kind (front ++ tail) text = front ++ appended kind tail text := by
  have hshortened : shortened (front ++ tail) = front ++ shortened tail := by
    unfold shortened
    rw [List.getLast?_append, List.getLast?_eq_some_getLast hne, Option.some_or,
      List.dropLast_append_of_ne_nil hne]
    split <;> rfl
  unfold appended
  rw [hshortened]
  split
  · rfl
  · split
    · rw [List.append_assoc]
    · split <;> rw [List.append_assoc]

/-- No text gets at the first of several segments. -/
theorem head?_appended (kind : Kind) (first second : String) (rest : List String) (text : String) :
    (appended kind (first :: second :: rest) text).head? = some first := by
  have hshortened : (shortened (first :: second :: rest)).head? = some first := by
    unfold shortened
    split <;> rfl
  unfold appended
  split
  · rfl
  · split
    · rw [List.head?_append, hshortened, Option.some_or]
    · split <;> rfl

theorem mem_appended {kind : Kind} {front : List String} {text segment : String}
    (h : segment ∈ appended kind front text) :
    segment ∈ front ∨ segment = "" ∨ ∃ other, segment = written kind other := by
  have hshortened : ∀ segment ∈ shortened front, segment ∈ front := by
    unfold shortened
    split
    · exact fun _ => id
    · exact fun _ => (List.dropLast_subset front ·)
  unfold appended at h
  split at h
  · exact .inl h
  · split at h
    · exact (List.mem_append.mp h).imp (hshortened segment) fun h => .inl (List.mem_singleton.mp h)
    · split at h
      · exact (List.mem_append.mp h).imp_right fun h => .inl (List.mem_singleton.mp h)
      · exact (List.mem_append.mp h).imp_right fun h => .inr ⟨_, List.mem_singleton.mp h⟩

theorem bare_eq_self_iff {text : String} :
    bare text = text ↔ ∀ c ∈ text.toList, c ≠ '\t' ∧ c ≠ '\n' ∧ c ≠ '\r' := by
  have htext : bare text = text ↔
      (text.toList.filter fun c => !(c = '\t' || c = '\n' || c = '\r')) = text.toList := by
    rw [← String.toList_inj, bare, String.toList_ofList]
  rw [htext, List.filter_eq_self]
  simp [and_assoc]

theorem keptInSegment_plain (kind : Kind) : ∀ b, keptInSegment kind b = true →
    b.toNat < 128 ∧ b ≠ Percent.percentSign ∧ asciiChar b ≠ '/' ∧ asciiChar b ≠ '?' := by
  refine forall_byte ?_
  cases kind <;> decide +kernel

theorem isAlphanumeric_plain : ∀ b, Percent.isAlphanumeric b = true →
    asciiChar b ≠ '/' ∧ asciiChar b ≠ '?' :=
  forall_byte (by decide +kernel)

theorem isReadable_keptInSegment (kind : Kind) : Percent.IsReadable (keptInSegment kind) where
  ascii b hkept := (keptInSegment_plain kind b hkept).1
  percent := by
    rw [Bool.eq_false_iff]
    intro hkept
    exact (keptInSegment_plain kind _ hkept).2.1 rfl

theorem unescape_written (kind : Kind) (text : String) :
    Percent.unescape (utf8 (written kind text)) = utf8 text :=
  (isReadable_keptInSegment kind).unescape_encode text

theorem not_mem_written (kind : Kind) (text : String) :
    '/' ∉ (written kind text).toList ∧ '?' ∉ (written kind text).toList := by
  have hplain : ∀ c ∈ (written kind text).toList, c ≠ '/' ∧ c ≠ '?' := by
    intro c hc
    unfold written Percent.encode ofAscii at hc
    rw [String.toList_ofList] at hc
    obtain ⟨b, hb, rfl⟩ := List.mem_map.mp hc
    rcases Percent.mem_encodeBytes hb with hkept | rfl | hdigit
    · exact (keptInSegment_plain kind b hkept).2.2
    · decide
    · exact isAlphanumeric_plain b hdigit
  exact ⟨fun h => (hplain _ h).1 rfl, fun h => (hplain _ h).2 rfl⟩

/-- What is written as some text is what that text stands for. -/
theorem eq_of_written {kind : Kind} {text other : String} (h : written kind text = other) :
    utf8 text = Percent.unescape (utf8 other) := by
  rw [← h, unescape_written]

/-- Points are written as they are, and a text is written as points only if it is points. -/
theorem isDot_written (kind : Kind) (text : String) :
    (isSingleDot (written kind text) = true ↔ text = ".") ∧
      (isDoubleDot (written kind text) = true ↔ text = "..") := by
  have hsingle : ∀ other ∈ [".", "%2e", "%2E"], Percent.unescape (utf8 other) = utf8 "." := by
    decide +kernel
  have hdouble : ∀ other ∈ ["..", ".%2e", ".%2E", "%2e.", "%2E.", "%2e%2e", "%2e%2E", "%2E%2e",
      "%2E%2E"], Percent.unescape (utf8 other) = utf8 ".." := by
    decide +kernel
  refine ⟨⟨fun h => ?_, ?_⟩, ⟨fun h => ?_, ?_⟩⟩
  · have hmem := List.contains_iff_mem.mp h
    exact utf8_injective ((eq_of_written rfl).trans (hsingle _ hmem))
  · rintro rfl
    cases kind <;> decide +kernel
  · have hmem := List.contains_iff_mem.mp h
    exact utf8_injective ((eq_of_written rfl).trans (hdouble _ hmem))
  · rintro rfl
    cases kind <;> decide +kernel

/-! ## Paths that a text has -/

/-- The path of a file that was read does not start with an empty segment, except for a single
slash; other paths may. -/
def IsSettled (u : Url) : Prop := settled u.kind u.segments = u.segments

/-- Segments that can stand at the front of a path. -/
def CanLead (kind : Kind) (segments : List String) : Prop :=
  kind = .file → segments.head? ≠ some ""

namespace CanLead

variable {kind : Kind} {segments : List String}

theorem append (h : CanLead kind segments) {tail : List String} (hhead : tail.head? ≠ some "") :
    CanLead kind (segments ++ tail) := by
  intro hkind
  cases segments with
  | nil => exact hhead
  | cons first rest => exact h hkind

theorem dropLast (h : CanLead kind segments) : CanLead kind segments.dropLast := by
  intro hkind
  match segments with
  | [] => exact nofun
  | [_] => exact nofun
  | first :: second :: rest => exact h hkind

theorem shortened (h : CanLead kind segments) : CanLead kind (shortened segments) := by
  unfold Url.shortened
  split
  · exact h
  · exact h.dropLast

theorem settled_concat (h : CanLead kind segments) (segment : String) :
    settled kind (segments ++ [segment]) = segments ++ [segment] := by
  unfold settled
  by_cases hkind : kind = .file
  · rw [if_pos hkind]
    have hhead := h hkind
    cases segments with
    | nil =>
      by_cases hempty : segment = ""
      · rw [hempty]
        rfl
      · simp [hempty]
    | cons first rest =>
      have hfirst : first ≠ "" := fun hempty => hhead (congrArg some hempty)
      simp [hfirst]
  · rw [if_neg hkind]

end CanLead

/-! ## A path in front of what is added -/

/-- A path that is a single slash has no segments. -/
def front (segments : List String) : List String := if segments = [""] then [] else segments

/-- A path without one slash at its end. -/
def unslashed (segments : List String) : List String :=
  if 1 < segments.length ∧ segments.getLast? = some "" then segments.dropLast else segments

/-- The segments of a base that additions keep: all of its path but one slash at its end. -/
def stem (u : Url) : List String := front (unslashed u.segments)

/-- A base with some segments after its path. -/
def plus (u : Url) (tail : List String) : Url := { u with segments := u.stem ++ tail }

theorem front_of_ne {segments : List String} (h : segments ≠ [""]) : front segments = segments :=
  if_neg h

/-- Two slashes alone are lost together. -/
theorem segments_eq_stem (u : Url) :
    u.segments = u.stem ∨ u.segments = u.stem ++ [""] ∨ u.segments = ["", ""] := by
  unfold stem front unslashed
  split
  · rename_i hlast
    have hsegments := List.dropLast_append_getLast? "" hlast.2
    split
    · rename_i hslash
      rw [hslash] at hsegments
      exact .inr (.inr hsegments.symm)
    · exact .inr (.inl hsegments.symm)
  · split
    · rename_i hslash
      exact .inr (.inl hslash)
    · exact .inl rfl

theorem eq_of_settled {segments : List String} (h : settled .file segments = segments)
    (hhead : segments.head? = some "") : segments = [""] := by
  unfold settled at h
  rw [if_pos rfl] at h
  split at h
  · exact h.symm
  · cases segments with
    | nil => cases hhead
    | cons first rest =>
      cases Option.some.inj hhead
      have hlength := (List.dropWhile_suffix (l := rest) (p := (·.isEmpty))).length_le
      rw [List.dropWhile_cons_of_pos rfl] at h
      rw [h, List.length_cons] at hlength
      omega

theorem IsSettled.canLead {u : Url} (h : u.IsSettled) (hne : u.segments ≠ [""]) :
    CanLead u.kind u.segments := by
  intro hkind hhead
  unfold IsSettled at h
  rw [hkind] at h
  exact hne (eq_of_settled h hhead)

theorem canLead_stem {u : Url} (h : u.IsSettled) : CanLead u.kind u.stem := by
  have hunslashed : unslashed u.segments ≠ [""] → CanLead u.kind (unslashed u.segments) := by
    unfold unslashed
    split
    · rename_i hlast
      refine fun _ => (h.canLead ?_).dropLast
      intro hsingle
      rw [hsingle] at hlast
      exact absurd hlast.1 (by decide)
    · exact h.canLead
  unfold stem front
  split
  · exact fun _ => nofun
  · rename_i hne
    exact hunslashed hne

/-- A text adds to a path in front of which anything may stand. -/
theorem push_eq {u : Url} {text : String} (hdots : ¬(text = "." ∨ text = ".."))
    (hlead : CanLead u.kind (front u.segments))
    (hdrive : u.kind = .file → front u.segments = [] →
      isDrive (written u.kind (bare text)) = false) :
    u.push text = { u with segments := appended u.kind (front u.segments) text } := by
  obtain ⟨hsingle, hdouble⟩ := isDot_written u.kind (bare text)
  have hnodrive : ¬(u.kind = .file ∧ (front u.segments).isEmpty = true ∧
      isDrive (written u.kind (bare text)) = true) := by
    rintro ⟨hkind, hempty, h⟩
    rw [hdrive hkind (List.isEmpty_iff.mp hempty)] at h
    cases h
  have hwalk : settled u.kind (walk u.kind (front u.segments) (written u.kind (bare text)) true) =
      appended u.kind (front u.segments) text := by
    unfold walk appended
    rw [if_neg hdots]
    simp only [hsingle, hdouble, hnodrive, if_true, if_false]
    split
    · rw [hlead.shortened.settled_concat]
    · split <;> rw [hlead.settled_concat]
  unfold push
  rw [if_neg hdots, ← hwalk]
  rfl

theorem front_stem_append {u : Url} {tail : List String} (hne : tail ≠ [])
    (hhead : tail.head? ≠ some "") : front (u.stem ++ tail) = u.stem ++ tail := by
  refine front_of_ne fun hsingle => ?_
  cases hstem : u.stem with
  | nil =>
    rw [hstem, List.nil_append] at hsingle
    exact hhead (congrArg List.head? hsingle)
  | cons first rest =>
    rw [hstem, List.cons_append] at hsingle
    exact hne (List.append_eq_nil_iff.mp (List.cons.inj hsingle).2).2

/-- What is added behind a base leaves the base as it is. -/
theorem push_plus {u : Url} (h : u.IsSettled) {tail : List String} (hne : tail ≠ [])
    (hhead : tail.head? ≠ some "") (text : String) :
    (u.plus tail).push text = u.plus (appended u.kind tail text) := by
  by_cases hdots : text = "." ∨ text = ".."
  · unfold push appended
    rw [if_pos hdots, if_pos hdots]
  · have hfront : front (u.plus tail).segments = u.stem ++ tail := front_stem_append hne hhead
    have hempty : front (u.plus tail).segments ≠ [] :=
      hfront ▸ List.append_ne_nil_of_right_ne_nil _ hne
    have hpush := push_eq hdots (hfront ▸ (canLead_stem h).append hhead)
      (fun _ hnil => absurd hnil hempty)
    rw [hpush, hfront, appended_append hne]
    rfl

/-- The first of the texts that are added to a base. -/
theorem extend_cons {u : Url} (h : u.IsSettled) {text : String}
    (hdots : ¬(text = "." ∨ text = "..")) (hbare : bare text = text)
    (hdrive : u.kind = .file → isDrive (written u.kind text) = false) (texts : List String) :
    u.extend (text :: texts) = texts.foldl push (u.plus [written u.kind text]) := by
  have hpush := @push_eq { u with segments := unslashed u.segments } text hdots (canLead_stem h)
    (fun hkind _ => hbare.symm ▸ hdrive hkind)
  rw [appended_of_bare _ hdots hbare] at hpush
  exact congrArg (texts.foldl push) hpush

/-! ## Bases that were read -/

theorem isSettled_of_kind {u : Url} (h : u.kind ≠ .file) : u.IsSettled := if_neg h

theorem settled_settled (kind : Kind) (segments : List String) :
    settled kind (settled kind segments) = settled kind segments := by
  unfold settled
  by_cases hkind : kind = .file
  · rw [if_pos hkind, if_pos hkind]
    cases hdrop : segments.dropWhile (·.isEmpty) with
    | nil => rfl
    | cons first rest =>
      dsimp only
      rw [← hdrop, List.dropWhile_idempotent, hdrop]
  · rw [if_neg hkind, if_neg hkind]

namespace Parser

theorem scheme_afterSlashes {scheme : String} {cs : List Char} {u : Url}
    (h : afterSlashes scheme cs = .ok u) : u.scheme = scheme := by
  simp only [afterSlashes, bind, Except.bind] at h
  split at h
  · cases h
  · cases h
    rfl

theorem scheme_other {scheme : String} {cs : List Char} {u : Url}
    (h : other scheme cs = .ok u) : u.scheme = scheme := by
  unfold other at h
  split at h
  · exact scheme_afterSlashes h
  · cases h
    rfl
  · cases h

theorem isSettled_file {cs : List Char} {u : Url} (h : file cs = .ok u) : u.IsSettled := by
  -- the host, if there is one, has no part in it
  simp only [file, bind, Except.bind] at h
  split at h
  · split at h
    · cases hhost : fileHost _ with
      | error fault => rw [hhost] at h; cases h
      | ok found => rw [hhost] at h; cases h; exact settled_settled .file _
    · cases h
      exact settled_settled .file _
  · cases h
    exact settled_settled .file _

end Parser

/-- **The path of a base that was read is settled.** -/
theorem isSettled_ofText {s : String} {u : Url} (h : ofText s = .ok u) : u.IsSettled := by
  unfold ofText at h
  split at h
  · cases h
  · rename_i scheme rest _
    cases hkind : kindOf scheme with
    | web =>
      rw [hkind] at h
      refine isSettled_of_kind ?_
      rw [kind, Parser.scheme_afterSlashes h, hkind]
      exact nofun
    | file =>
      rw [hkind] at h
      exact Parser.isSettled_file h
    | other =>
      rw [hkind] at h
      refine isSettled_of_kind ?_
      rw [kind, Parser.scheme_other h, hkind]
      exact nofun

/-! ## Targets -/

theorem pieces_flatMap (segments : List String) (h : ∀ segment ∈ segments, '/' ∉ segment.toList)
    {front : List Char} (hfront : '/' ∉ front) :
    pieces '/' (front ++ segments.flatMap fun segment => '/' :: segment.toList) =
      front :: segments.map String.toList := by
  induction segments generalizing front with
  | nil => rw [List.flatMap_nil, List.append_nil, pieces_of_not_mem hfront, List.map_nil]
  | cons segment segments ih =>
    obtain ⟨hsegment, hrest⟩ := List.forall_mem_cons.mp h
    rw [List.flatMap_cons, List.cons_append, pieces_append_cons hfront, ih hrest hsegment,
      List.map_cons]

theorem toList_path (u : Url) :
    u.path.toList = u.segments.flatMap fun segment => '/' :: segment.toList := by
  rw [path, String.toList_join, List.flatMap_map]
  simp

/-- A target is the path of the base and then what the segments and the query of the rest are found
in. -/
theorem target_plus (u : Url) {tail : List String} (query : Option String)
    (h : ∀ segment ∈ tail, '/' ∉ segment.toList ∧ '?' ∉ segment.toList) :
    ∃ rest, (target { u.plus tail with query }).toList =
        (u.stem.flatMap fun segment => '/' :: segment.toList) ++ rest ∧
      pieces '/' (splitFirst '?' rest).1 = [] :: tail.map String.toList := by
  let added := tail.flatMap fun segment => '/' :: segment.toList
  have hpath : (path { u.plus tail with query }).toList =
      (u.stem.flatMap fun segment => '/' :: segment.toList) ++ added := by
    rw [toList_path]
    exact List.flatMap_append
  have hpieces : pieces '/' added = [] :: tail.map String.toList := by
    have h := pieces_flatMap tail (fun segment hsegment => (h segment hsegment).1)
      (@List.not_mem_nil _ '/')
    rwa [List.nil_append] at h
  have hquestion : '?' ∉ added := by
    intro hmem
    obtain ⟨segment, hsegment, hc⟩ := List.mem_flatMap.mp hmem
    rcases List.mem_cons.mp hc with hc | hc
    · cases hc
    · exact (h segment hsegment).2 hc
  unfold target
  rw [String.toList_append, hpath]
  cases query with
  | none =>
    refine ⟨added, by simp, ?_⟩
    rw [splitFirst_of_not_mem hquestion, hpieces]
  | some query =>
    refine ⟨added ++ '?' :: query.toList, by simp, ?_⟩
    rw [splitFirst_append hquestion, hpieces]

/-- Behind one base, targets differ if what is added does. -/
theorem tail_eq_of_target {u : Url} {tail tail' : List String} {query query' : Option String}
    (htail : ∀ segment ∈ tail, '/' ∉ segment.toList ∧ '?' ∉ segment.toList)
    (htail' : ∀ segment ∈ tail', '/' ∉ segment.toList ∧ '?' ∉ segment.toList)
    (h : target { u.plus tail with query } = target { u.plus tail' with query := query' }) :
    tail = tail' := by
  obtain ⟨rest, hrest, hpieces⟩ := target_plus u query htail
  obtain ⟨rest', hrest', hpieces'⟩ := target_plus u query' htail'
  have hsame : rest = rest' := by
    rw [h, hrest'] at hrest
    exact (List.append_cancel_left hrest).symm
  rw [hsame, hpieces', List.cons.injEq] at hpieces
  exact (List.map_injective_iff.mpr (fun _ _ => String.toList_inj.mp) hpieces.2).symm

end RankedSearch.Url
