import RankedSearch.Proofs.Query.PhraseForms
import RankedSearch.Proofs.Text.FormEncoding
import RankedSearch.Query.Route

/-! # The paths of routes

A path is written from a route by two encodings, one inside the other: the phrase as base64, and
that and the id as the values of a form. Reading undoes both, so a route reads back from its path
unless its id is empty, for an empty id counts as none. -/
namespace RankedSearch.Query.Route

open RankedSearch.Text

theorem splitQuery?_append {base : String} (h : '?' ∉ base.toList) (query : String) :
    splitQuery? (base ++ "?" ++ query) = some (base, query) := by
  have hchars : (base ++ "?" ++ query).toList = base.toList ++ '?' :: query.toList := by simp
  have hbase : ∀ c ∈ base.toList, (c != '?') = true := by
    intro c hc
    rw [bne_iff_ne]
    rintro rfl
    exact h hc
  have hfront : (base.toList ++ '?' :: query.toList).takeWhile (· != '?') = base.toList := by
    rw [List.takeWhile_append_of_pos hbase]
    simp
  have hback : (base.toList ++ '?' :: query.toList).dropWhile (· != '?') = '?' :: query.toList := by
    rw [List.dropWhile_append_of_pos hbase]
    simp
  unfold splitQuery?
  dsimp only
  rw [hchars, hfront, hback]
  dsimp only
  rw [String.ofList_toList, String.ofList_toList]

/-- A value as it stands in a path. -/
def component (value : String) : String := ofAscii (FormEncoding.encodeComponent value)

theorem toPath_eq (r : Route) :
    r.toPath = "/results?qid=" ++ component r.id.text ++ "&q=" ++ component r.phrase.encode := by
  have hid : FormEncoding.encodeComponent "qid" = [0x71, 0x69, 0x64] := by decide +kernel
  have hphrase : FormEncoding.encodeComponent "q" = [0x71] := by decide +kernel
  have hascii : asciiChar 0x71 = 'q' ∧ asciiChar 0x69 = 'i' ∧ asciiChar 0x64 = 'd' ∧
      asciiChar FormEncoding.equalsSign = '=' ∧ asciiChar FormEncoding.ampersand = '&' := by
    decide +kernel
  obtain ⟨hq, hi, hd, hequals, hand⟩ := hascii
  apply String.toList_inj.mp
  simp [toPath, resultsPath, component, FormEncoding.encode, FormEncoding.encodePair, ofAscii,
    List.intercalate_cons_cons, hid, hphrase, hq, hi, hd, hequals, hand]

/-- An id that is empty is not found. -/
theorem ofPath_toPath (r : Route) :
    ofPath r.toPath = if r.id.text = "" then .error .missingId else .ok r := by
  obtain ⟨⟨id⟩, phrase⟩ := r
  have hphrase : Phrase.decode phrase.encode = .ok phrase := by
    have hplain := Phrase.decode_written (List.mem_cons_self ..) phrase 0
    rwa [List.replicate_zero, String.ofList_nil, String.append_empty,
      Phrase.written_urlSafe] at hplain
  unfold ofPath toPath
  rw [splitQuery?_append (by decide +kernel)]
  dsimp only
  rw [if_pos rfl, FormEncoding.decode_encode]
  unfold ofParameters
  by_cases hid : id = ""
  · rw [if_pos hid]
    simp [Found.addAll, Found.add, Found.route, hphrase, hid]
  · rw [if_neg hid]
    simp [Found.addAll, Found.add, Found.route, hphrase, hid]

/-! ## Routes that were read -/

theorem Found.add_id {found found' : Found} {name value : String}
    (hid : ∀ id, found.id = some id → id.text ≠ "") (h : found.add name value = .ok found') :
    ∀ id, found'.id = some id → id.text ≠ "" := by
  unfold add at h
  split at h
  · rename_i hname
    cases h
    intro id hfound
    cases hfound
    exact hname.2
  · split at h
    · split at h
      · cases h
        exact hid
      · cases h
    · cases h
      exact hid

theorem Found.addAll_id {found found' : Found} {pairs : List (String × String)}
    (hid : ∀ id, found.id = some id → id.text ≠ "") (h : found.addAll pairs = .ok found') :
    ∀ id, found'.id = some id → id.text ≠ "" := by
  induction pairs generalizing found with
  | nil => cases h; exact hid
  | cons pair rest ih =>
    obtain ⟨name, value⟩ := pair
    unfold addAll at h
    split at h
    · rename_i next hnext
      exact ih (add_id hid hnext) h
    · cases h

/-- What is read has an id. -/
theorem id_of_ofPath {path : String} {r : Route} (h : ofPath path = .ok r) : r.id.text ≠ "" := by
  unfold ofPath at h
  split at h
  · cases h
  · split at h
    · unfold ofParameters at h
      split at h
      · rename_i found hfound
        have hid := Found.addAll_id (by simp) hfound
        obtain ⟨_ | id, _ | phrase⟩ := found
        · cases h
        · cases h
        · cases h
        · cases h
          exact hid id rfl
      · cases h
    · cases h

/-- **Routes read back.** The path of a route is that of all results with the id and the phrase of
the query as the values of a form, in which only letters, digits and a few signs of ASCII stand for
themselves. It reads as the route, whatever characters the id has, unless it has none: then the id
is missing. And the path of a route that was read reads as the same route again. -/
theorem ofPath_toPath_eq :
    (∀ r : Route, ofPath r.toPath = if r.id.text = "" then .error .missingId else .ok r) ∧
    (∀ r : Route, ∃ id phrase : String,
      r.toPath = "/results?qid=" ++ id ++ "&q=" ++ phrase ∧
        FormEncoding.Plain id.toList ∧ FormEncoding.Plain phrase.toList) ∧
    ∀ path r, ofPath path = .ok r → ofPath r.toPath = .ok r := by
  refine ⟨ofPath_toPath, fun r => ⟨_, _, toPath_eq r, FormEncoding.encodeComponent_letters _,
    FormEncoding.encodeComponent_letters _⟩, fun path r h => ?_⟩
  rw [ofPath_toPath, if_neg (id_of_ofPath h)]

/-- A path that was not written here: empty pairs, the phrase first and in the standard alphabet, and
an id that has to be escaped. -/
theorem ofPath_toPath_eq_foreign :
    ∃ r : Route, ofPath "/results?&&q=Pz8/&qid=&qid=a%26b+%3d" = .ok r ∧ r.id.text = "a&b =" ∧
      ofPath r.toPath = .ok r := by
  have hread : (ofPath "/results?&&q=Pz8/&qid=&qid=a%26b+%3d").toOption =
      some ⟨⟨"a&b ="⟩, ⟨"???", by decide +kernel, by decide⟩⟩ := by decide +kernel
  cases h : ofPath "/results?&&q=Pz8/&qid=&qid=a%26b+%3d" with
  | error fault => rw [h] at hread; cases hread
  | ok r =>
    rw [h] at hread
    cases hread
    exact ⟨_, rfl, rfl, ofPath_toPath_eq.2.2 _ _ h⟩

end RankedSearch.Query.Route
