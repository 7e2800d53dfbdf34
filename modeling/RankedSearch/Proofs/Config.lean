import Mathlib.Data.List.DropRight
import RankedSearch.Config

/-! # Configurations that were loaded

Loading normalizes the addresses of a configuration before it looks at them, so that what it gives
is in normal form but for one thing: the white space around the base URL goes before the slashes at
its end do, and white space that stood right before the slashes stays. Without such white space, and
only without it, normalizing a loaded configuration again changes nothing
(`normalized_normalized_iff`). -/
namespace RankedSearch

/-! ## The ends of texts -/

namespace Text

theorem dropEndWhile_eq_rdropWhile (p : Char → Bool) (cs : List Char) :
    dropEndWhile p cs = cs.rdropWhile p := rfl

theorem last_dropEndWhile {p : Char → Bool} {cs : List Char} {c : Char}
    (h : c ∈ (dropEndWhile p cs).getLast?) : p c = false := by
  rw [dropEndWhile_eq_rdropWhile] at h
  obtain ⟨hne, rfl⟩ := List.mem_getLast?_eq_getLast h
  simpa using List.rdropWhile_last_not p cs hne

theorem head_of_isPrefix {front cs : List Char} (h : front <+: cs) {c : Char}
    (hc : c ∈ front.head?) : c ∈ cs.head? := by
  obtain ⟨rest, rfl⟩ := h
  rw [List.head?_append]
  exact congrArg (Option.or · rest.head?) hc

theorem head_trimList {cs : List Char} {c : Char} (h : c ∈ (trimList cs).head?) :
    isBlank c = false := by
  have hhead : (cs.dropWhile isBlank).head? = some c :=
    head_of_isPrefix (dropEndWhile_isPrefix isBlank _) h
  have hnot := List.head?_dropWhile_not isBlank cs
  rwa [hhead] at hnot

theorem trimList_sublist (cs : List Char) : (trimList cs).Sublist cs :=
  (dropEndWhile_isPrefix _ _).sublist.trans (List.dropWhile_sublist _)

/-- A text is trimmed if it has a blank at neither end. -/
theorem trimList_eq_self_iff {cs : List Char} : trimList cs = cs ↔
    (∀ c ∈ cs.head?, isBlank c = false) ∧ ∀ c ∈ cs.getLast?, isBlank c = false := by
  constructor
  · intro h
    rw [← h]
    exact ⟨fun c => head_trimList, fun c => last_dropEndWhile⟩
  · rintro ⟨hfirst, hlast⟩
    have hfront : cs.dropWhile isBlank = cs := by
      cases cs with
      | nil => rfl
      | cons c rest =>
        exact List.dropWhile_cons_of_neg (by simpa using hfirst c rfl)
    rw [trimList, hfront, dropEndWhile_eq_rdropWhile, List.rdropWhile_eq_self_iff]
    intro hne
    simpa using hlast _ (List.getLast?_eq_some_getLast hne)

theorem trim_eq_self_iff {s : String} : trim s = s ↔
    (∀ c ∈ s.toList.head?, isBlank c = false) ∧ ∀ c ∈ s.toList.getLast?, isBlank c = false := by
  rw [← String.toList_inj, toList_trim]
  exact trimList_eq_self_iff

end Text

open RankedSearch.Text

/-! ## Base URLs -/

/-- White space stands right before the slashes at the end of a text, once that is trimmed. -/
def BlankBeforeSlashes (url : String) : Prop :=
  ∃ front blank n, isBlank blank = true ∧
    (trim url).toList = front ++ blank :: List.replicate n '/'

/-- That is the white space which is left over. -/
theorem last_isBlank_iff {url : String} :
    (∀ c ∈ (trimEndChar '/' (trim url)).toList.getLast?, isBlank c = false) ↔
      ¬BlankBeforeSlashes url := by
  have hslash : isBlank '/' = false := by decide
  rw [toList_trimEndChar]
  unfold BlankBeforeSlashes
  generalize (trim url).toList = cs
  constructor
  · rintro hlast ⟨front, blank, n, hblank, rfl⟩
    have hne : ¬(blank == '/') = true := by
      rw [beq_iff_eq]
      rintro rfl
      rw [hslash] at hblank
      cases hblank
    have hslashes : dropEndWhile (· == '/') (front ++ blank :: List.replicate n '/') =
        front ++ [blank] := by
      rw [List.append_cons, dropEndWhile_append_of_forall (by simp)]
      exact List.rdropWhile_concat_neg (· == '/') front blank hne
    rw [hslashes] at hlast
    have := hlast blank List.getLast?_concat
    rw [hblank] at this
    cases this
  · intro hnone c hc
    by_contra hblank
    obtain ⟨front, hfront⟩ := List.getLast?_eq_some_iff.mp hc
    refine hnone ⟨front, c, (cs.rtakeWhile (· == '/')).length, by simpa using hblank, ?_⟩
    have hends : cs.rtakeWhile (· == '/') =
        List.replicate (cs.rtakeWhile (· == '/')).length '/' :=
      List.eq_replicate_iff.mpr ⟨rfl, fun d hd => by simpa using List.mem_rtakeWhile_imp hd⟩
    have hcs := List.rdropWhile_append_rtakeWhile (p := (· == '/')) (l := cs)
    rw [← hends, List.append_cons, ← hfront, dropEndWhile_eq_rdropWhile, hcs]

namespace Config

/-! ## What loading ensures -/

/-- What a configuration has once it is loaded. -/
structure IsLoaded (c : Config) : Prop where
  logLevel : trim c.logLevel ≠ ""
  scheme : "http://".toList <+: c.baseUrl.toList ∨ "https://".toList <+: c.baseUrl.toList
  first : ∀ d ∈ c.baseUrl.toList.head?, isBlank d = false
  last : ∀ d ∈ c.baseUrl.toList.getLast?, d ≠ '/'
  path : c.notificationsPath.toList.head? = some '/'
  pathTrimmed : trim c.notificationsPath = c.notificationsPath
  timeout : 0 < c.timeout
  fallback : 0 < c.fallback
  commandBuffer : 0 < c.commandBuffer

theorem problem?_eq_none_iff {c : Config} : c.problem? = none ↔
    trim c.logLevel ≠ "" ∧ c.baseUrl ≠ "" ∧ hasWebScheme c.baseUrl = true ∧ c.timeout ≠ 0 ∧
      c.notificationsPath.toList.head? = some '/' ∧ c.fallback ≠ 0 ∧ c.commandBuffer ≠ 0 := by
  unfold problem?
  split_ifs <;> simp_all

theorem trim_normalized_path (c : Config) :
    trim c.normalized.notificationsPath = c.normalized.notificationsPath := by
  unfold normalized
  dsimp only
  split
  · decide +kernel
  · exact trim_trim _

theorem toList_normalized_url (c : Config) :
    c.normalized.baseUrl.toList = dropEndWhile (· == '/') (trimList c.baseUrl.toList) := by
  show (trimEndChar '/' (trim c.baseUrl)).toList = _
  rw [toList_trimEndChar, toList_trim]

theorem IsLoaded.of_problem?_eq_none {c : Config} (h : c.normalized.problem? = none) :
    c.normalized.IsLoaded := by
  obtain ⟨hlevel, _, hscheme, htimeout, hpath, hfallback, hbuffer⟩ := problem?_eq_none_iff.mp h
  have hlist := c.toList_normalized_url
  refine ⟨hlevel, ?_, fun d hd => ?_, fun d hd => ?_, hpath, c.trim_normalized_path,
    UInt64.pos_iff_ne_zero.mpr htimeout, UInt64.pos_iff_ne_zero.mpr hfallback,
    UInt64.pos_iff_ne_zero.mpr hbuffer⟩
  · simpa [hasWebScheme] using hscheme
  · rw [hlist] at hd
    exact head_trimList (head_of_isPrefix (dropEndWhile_isPrefix _ _) hd)
  · rw [hlist] at hd
    simpa using last_dropEndWhile hd

/-! ## Normalizing again -/

theorem normalized_eq_self {c : Config} (hurl : trimEndChar '/' (trim c.baseUrl) = c.baseUrl)
    (hpath : trim c.notificationsPath = c.notificationsPath) (hne : c.notificationsPath ≠ "") :
    c.normalized = c := by
  unfold normalized
  dsimp only
  rw [hurl, hpath, if_neg hne]

/-- A second time changes nothing unless white space has been left over. -/
theorem normalized_normalized_iff {c : Config} (h : c.normalized.IsLoaded) :
    c.normalized.normalized = c.normalized ↔ ¬BlankBeforeSlashes c.baseUrl := by
  have hlast : (∀ d ∈ c.normalized.baseUrl.toList.getLast?, isBlank d = false) ↔
      ¬BlankBeforeSlashes c.baseUrl := last_isBlank_iff
  rw [← hlast]
  constructor
  · intro hsame
    have hurl : dropEndWhile (· == '/') (trimList c.normalized.baseUrl.toList) =
        c.normalized.baseUrl.toList := by
      rw [← toList_normalized_url, hsame]
    -- what the trimming has dropped cannot be there again
    have htrim : trimList c.normalized.baseUrl.toList = c.normalized.baseUrl.toList := by
      refine (trimList_sublist _).antisymm ?_
      have hprefix := dropEndWhile_isPrefix (· == '/') (trimList c.normalized.baseUrl.toList)
      rw [hurl] at hprefix
      exact hprefix.sublist
    exact (trimList_eq_self_iff.mp htrim).2
  · intro hblank
    refine normalized_eq_self ?_ h.pathTrimmed fun hempty => ?_
    · rw [trim_eq_self_iff.mpr ⟨h.first, hblank⟩]
      apply String.toList_inj.mp
      rw [toList_trimEndChar, toList_normalized_url, dropEndWhile_idem]
    · have hpath := h.path
      rw [hempty] at hpath
      cases hpath

/-! ## Loading -/

theorem load_eq_ok_iff {path : String} {text : Option String} {c : Config} :
    load path text = .ok c ↔ ∃ raw written, text = some raw ∧
      (Toml.ofText? raw).bind ofToml? = some written ∧ written.normalized.problem? = none ∧
        c = written.normalized := by
  cases text with
  | none => simp [load]
  | some raw =>
    unfold load
    dsimp only
    cases hread : (Toml.ofText? raw).bind ofToml? with
    | none => simp [hread]
    | some written =>
      dsimp only
      split
      · rename_i problem hproblem
        refine iff_of_false nofun ?_
        rintro ⟨_, _, ⟨⟩, hwritten, hnone, _⟩
        cases hread.symm.trans hwritten
        cases hproblem.symm.trans hnone
      · rename_i hnone
        constructor
        · rintro ⟨⟩
          exact ⟨raw, written, rfl, hread, hnone, rfl⟩
        · rintro ⟨_, _, ⟨⟩, hwritten, _, rfl⟩
          cases hread.symm.trans hwritten
          rfl

/-- **Loaded configurations are in normal form,** but for white space that was left over at the end
of the base URL. They have all that the checks ask for, and they have it in their final form: the
addresses are trimmed at their front, no slash ends the base URL, and white space does only if it
stood before the slashes there. Just then normalizing them again would change something. -/
theorem load_normalizes {path : String} {text : Option String} {c : Config}
    (h : load path text = .ok c) :
    c.IsLoaded ∧ ∃ raw written, text = some raw ∧
      (Toml.ofText? raw).bind ofToml? = some written ∧ c = written.normalized ∧
      ((∀ d ∈ c.baseUrl.toList.getLast?, isBlank d = false) ↔ ¬BlankBeforeSlashes written.baseUrl) ∧
      (c.normalized = c ↔ ¬BlankBeforeSlashes written.baseUrl) := by
  obtain ⟨raw, written, htext, hread, hvalid, rfl⟩ := load_eq_ok_iff.mp h
  have hloaded := IsLoaded.of_problem?_eq_none hvalid
  exact ⟨hloaded, raw, written, htext, hread, rfl, last_isBlank_iff,
    normalized_normalized_iff hloaded⟩

/-- A document with little more in it than a base URL. -/
def sampleDocument (url : String) : String :=
  "[service]\nlog_level = \"info\"\n\n[api]\nbase_url = \"" ++ url ++
    "\"\ntimeout_ms = 10000\nnotifications_path = \" \"\n"

/-- What it is loaded as. -/
def sampleLoaded (url : String) : Config :=
  { logLevel := "info"
    baseUrl := url
    timeout := 10000
    notificationsPath := defaultNotificationsPath
    fallback := defaultFallback
    commandBuffer := defaultCommandBuffer }

theorem eq_ok_of_toOption {ε α : Type} {x : Except ε α} {a : α} (h : x.toOption = some a) :
    x = .ok a := by
  cases x with
  | error e => cases h
  | ok b => cases h; rfl

/-- White space at the ends and slashes before it. -/
theorem load_normalizes_trimmed :
    load "visor.toml" (some (sampleDocument "  http://visor.local/demo// ")) =
        .ok (sampleLoaded "http://visor.local/demo") ∧
      (sampleLoaded "http://visor.local/demo").IsLoaded ∧
      (sampleLoaded "http://visor.local/demo").normalized =
        sampleLoaded "http://visor.local/demo" := by
  have hload : load "visor.toml" (some (sampleDocument "  http://visor.local/demo// ")) =
      .ok (sampleLoaded "http://visor.local/demo") := eq_ok_of_toOption (by decide +kernel)
  have hend : (sampleLoaded "http://visor.local/demo").baseUrl.toList.getLast? = some 'o' := by
    decide +kernel
  obtain ⟨hloaded, _, _, _, _, _, hlast, hagain⟩ := load_normalizes hload
  refine ⟨hload, hloaded, hagain.mpr (hlast.mp fun d hd => ?_)⟩
  cases hend.symm.trans hd
  decide

/-- White space before a slash: it stays, and normalizing again takes it away. -/
theorem loaded_need_not_be_normal :
    load "visor.toml" (some (sampleDocument "http://visor.local /")) =
        .ok (sampleLoaded "http://visor.local ") ∧
      trim (sampleLoaded "http://visor.local ").baseUrl ≠
        (sampleLoaded "http://visor.local ").baseUrl ∧
      (sampleLoaded "http://visor.local ").normalized = sampleLoaded "http://visor.local" ∧
      sampleLoaded "http://visor.local" ≠ sampleLoaded "http://visor.local " :=
  ⟨eq_ok_of_toOption (by decide +kernel), by decide +kernel, by decide +kernel, by decide +kernel⟩

end Config

end RankedSearch
