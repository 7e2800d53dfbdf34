import RankedSearch.Proofs.Query.RoutePaths

/-! # The parameters of a route

The text behind the question mark of a route falls into segments, each with a name and a value.
Reading looks at phrases and at ids that are not empty, and all else might as well not be there
(`addAll_owned`). Of what it looks at, the first phrase that is none decides; if there is no such
phrase, the last id and the last phrase do (`addAll_eq`). -/
namespace RankedSearch.Query.Route

open RankedSearch.Text

/-- A name and a value. -/
abbrev Parameter := String × String

namespace Parameter

/-- The id that a parameter gives. An empty one counts as none. -/
def id? (p : Parameter) : Option Id :=
  if p.1 = "qid" ∧ p.2 ≠ "" then some ⟨p.2⟩ else none

/-- The phrase that a parameter gives, if it can be read. -/
def phrase? (p : Parameter) : Option Phrase :=
  if p.1 = "q" then (Phrase.decode p.2).toOption else none

/-- Why the phrase of a parameter cannot be read. -/
def fault? (p : Parameter) : Option Phrase.Fault :=
  if p.1 = "q" then
    match Phrase.decode p.2 with
    | .ok _ => none
    | .error fault => some fault
  else none

/-- Whether a parameter matters to a route. -/
def Owned (p : Parameter) : Prop := p.1 = "q" ∨ p.1 = "qid" ∧ p.2 ≠ ""

instance : DecidablePred Owned := fun p =>
  inferInstanceAs (Decidable (p.1 = "q" ∨ p.1 = "qid" ∧ p.2 ≠ ""))

end Parameter

/-- The parameters of all segments of a text, the empty segments included. -/
def parameters (query : String) : List Parameter :=
  (pieces FormEncoding.ampersand (utf8 query)).map FormEncoding.decodePair

def ids (query : String) : List Id := (parameters query).filterMap Parameter.id?

def phrases (query : String) : List Phrase := (parameters query).filterMap Parameter.phrase?

def faults (query : String) : List Phrase.Fault := (parameters query).filterMap Parameter.fault?

/-- The parameters that matter to a route. -/
def owned (ps : List Parameter) : List Parameter := ps.filter Parameter.Owned

/-! ## One parameter -/

theorem Found.add_of_not_owned {p : Parameter} (h : ¬p.Owned) (found : Found) :
    found.add p.1 p.2 = .ok found := by
  obtain ⟨hphrase, hid⟩ := not_or.mp h
  rw [add, if_neg hid, if_neg hphrase]

theorem Found.add_eq (found : Found) (p : Parameter) :
    found.add p.1 p.2 = p.fault?.elim
      (.ok ⟨p.id?.or found.id, p.phrase?.or found.phrase⟩) fun fault => .error (.phrase fault) := by
  unfold add Parameter.fault? Parameter.phrase? Parameter.id?
  by_cases hid : p.1 = "qid" ∧ p.2 ≠ ""
  · have hphrase : p.1 ≠ "q" := by
      rw [hid.1]
      decide
    rw [if_pos hid, if_pos hid, if_neg hphrase, if_neg hphrase]
    rfl
  · rw [if_neg hid, if_neg hid]
    by_cases hphrase : p.1 = "q"
    · rw [if_pos hphrase, if_pos hphrase, if_pos hphrase]
      cases Phrase.decode p.2 <;> rfl
    · rw [if_neg hphrase, if_neg hphrase, if_neg hphrase]
      rfl

/-! ## All parameters -/

theorem owned_append (front back : List Parameter) :
    owned (front ++ back) = owned front ++ owned back := List.filter_append ..

theorem owned_eq_nil {ps : List Parameter} (h : ∀ p ∈ ps, ¬p.Owned) : owned ps = [] :=
  List.filter_eq_nil_iff.mpr fun p hp => by simpa using h p hp

/-- What has no part in a route can be left out. -/
theorem Found.addAll_owned (found : Found) (ps : List Parameter) :
    found.addAll (owned ps) = found.addAll ps := by
  induction ps generalizing found with
  | nil => rfl
  | cons p rest ih =>
    unfold owned at ih ⊢
    by_cases h : p.Owned
    · rw [List.filter_cons_of_pos (by simpa using h), addAll, addAll]
      cases found.add p.1 p.2 with
      | error fault => rfl
      | ok next => exact ih next
    · rw [List.filter_cons_of_neg (by simpa using h), addAll, add_of_not_owned h]
      exact ih found

theorem head?_filterMap_cons {α β : Type} (f : α → Option β) (a : α) (rest : List α) :
    ((a :: rest).filterMap f).head? = (f a).or (rest.filterMap f).head? := by
  cases h : f a <;> simp [h]

theorem getLast?_filterMap_cons {α β : Type} (f : α → Option β) (a : α) (rest : List α) :
    ((a :: rest).filterMap f).getLast? = (rest.filterMap f).getLast?.or (f a) := by
  cases h : f a with
  | none => simp [h]
  | some b =>
    rw [List.filterMap_cons_some h, List.getLast?_cons]
    cases (rest.filterMap f).getLast? <;> rfl

/-- The first fault counts, and else what came last. -/
theorem Found.addAll_eq (found : Found) (ps : List Parameter) :
    found.addAll ps = (ps.filterMap Parameter.fault?).head?.elim
      (.ok ⟨(ps.filterMap Parameter.id?).getLast?.or found.id,
        (ps.filterMap Parameter.phrase?).getLast?.or found.phrase⟩)
      fun fault => .error (.phrase fault) := by
  induction ps generalizing found with
  | nil => rfl
  | cons p rest ih =>
    rw [addAll, add_eq, head?_filterMap_cons, getLast?_filterMap_cons, getLast?_filterMap_cons]
    cases p.fault? with
    | some fault => rfl
    | none =>
      rw [Option.elim_none, Option.none_or, Option.or_assoc, Option.or_assoc]
      exact ih _

/-! ## Texts -/

theorem parameters_append (front back : String) :
    parameters (front ++ "&" ++ back) = parameters front ++ parameters back := by
  have hand : utf8 "&" = [FormEncoding.ampersand] := by decide +kernel
  unfold parameters
  rw [utf8_append, utf8_append, hand, List.append_assoc, List.singleton_append, pieces_append,
    List.map_append]

/-- That reading skips empty segments makes no difference. -/
theorem owned_decode (query : String) :
    owned (FormEncoding.decode query) = owned (parameters query) := by
  have hempty : ¬Parameter.Owned (FormEncoding.decodePair []) := by decide +kernel
  unfold owned FormEncoding.decode FormEncoding.segments parameters
  rw [List.filter_map, List.filter_map, List.filter_filter]
  congr 1
  refine List.filter_congr fun segment _ => ?_
  cases segment with
  | nil => simp [hempty]
  | cons b rest => simp

theorem ofPath_eq (query : String) :
    ofPath ("/results?" ++ query) = ofParameters (owned (parameters query)) := by
  have hpath : "/results?" = resultsPath ++ "?" := by decide +kernel
  unfold ofPath
  rw [hpath, splitQuery?_append (by decide +kernel)]
  dsimp only
  rw [if_pos rfl, ← owned_decode]
  unfold ofParameters
  rw [Found.addAll_owned]

theorem ofPath_congr {query query' : String}
    (h : owned (parameters query) = owned (parameters query')) :
    ofPath ("/results?" ++ query) = ofPath ("/results?" ++ query') := by
  rw [ofPath_eq, ofPath_eq, h]

/-- What is read, by the first fault, the last id and the last phrase. -/
theorem ofPath_eq_elim (query : String) :
    ofPath ("/results?" ++ query) = (faults query).head?.elim
      (Found.route ⟨(ids query).getLast?, (phrases query).getLast?⟩)
      fun fault => .error (.phrase fault) := by
  rw [ofPath_eq]
  unfold ofParameters
  rw [Found.addAll_owned, Found.addAll_eq, Option.or_none, Option.or_none]
  unfold faults ids phrases
  cases ((parameters query).filterMap Parameter.fault?).head? <;> rfl

/-- **A route depends on its parameters alone.** The first phrase that cannot be read is the fault
of a text, whatever else is missing. If all can be read, the last id that is not empty and the last
phrase make the route, and a missing id counts before a missing phrase. So what is read is up to the
phrases and the ids that are not empty: segments of other names, empty ones and ids without a value
can stand anywhere between, in front or behind. -/
theorem ofPath_by_parameters :
    (∀ query,
      (∀ fault, (faults query).head? = some fault →
        ofPath ("/results?" ++ query) = .error (.phrase fault)) ∧
      (faults query = [] →
        (ids query = [] → ofPath ("/results?" ++ query) = .error .missingId) ∧
        (ids query ≠ [] → phrases query = [] →
          ofPath ("/results?" ++ query) = .error .missingPhrase) ∧
        ∀ id phrase, (ids query).getLast? = some id → (phrases query).getLast? = some phrase →
          ofPath ("/results?" ++ query) = .ok ⟨id, phrase⟩)) ∧
    (∀ query query', owned (parameters query) = owned (parameters query') →
      ofPath ("/results?" ++ query) = ofPath ("/results?" ++ query')) ∧
    ∀ front extra back, (∀ p ∈ parameters extra, ¬p.Owned) →
      ofPath ("/results?" ++ (front ++ "&" ++ (extra ++ "&" ++ back))) =
          ofPath ("/results?" ++ (front ++ "&" ++ back)) ∧
        ofPath ("/results?" ++ (extra ++ "&" ++ back)) = ofPath ("/results?" ++ back) ∧
        ofPath ("/results?" ++ (front ++ "&" ++ extra)) = ofPath ("/results?" ++ front) := by
  refine ⟨fun query => ⟨fun fault hfault => ?_, fun hread => ⟨fun hids => ?_,
    fun hids hphrases => ?_, fun id phrase hid hphrase => ?_⟩⟩, fun query query' => ofPath_congr,
    fun front extra back hextra => ?_⟩
  · rw [ofPath_eq_elim, hfault]
    rfl
  · rw [ofPath_eq_elim, hread, hids]
    rfl
  · rw [ofPath_eq_elim, hread, hphrases, List.getLast?_eq_some_getLast hids]
    rfl
  · rw [ofPath_eq_elim, hread, hid, hphrase]
    rfl
  · have hnone := owned_eq_nil hextra
    refine ⟨ofPath_congr ?_, ofPath_congr ?_, ofPath_congr ?_⟩
    · rw [parameters_append, parameters_append, parameters_append, owned_append, owned_append,
        owned_append, hnone, List.nil_append]
    · rw [parameters_append, owned_append, hnone, List.nil_append]
    · rw [parameters_append, owned_append, hnone, List.append_nil]

/-- The first phrase is at fault, with its name escaped and no id in sight. -/
example : ofPath "/results?%71=!&q=%F0&q=Y2Fy" = .error (.phrase (.base64 (.symbol 33 0))) := by
  cbv

end RankedSearch.Query.Route
