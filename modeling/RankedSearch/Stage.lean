import RankedSearch.Text.Blank

/-! The stages a query runs through on its way to a ranking, in order. The service names a stage by
its wire name and people by its label; either is understood in any ASCII case. -/

namespace RankedSearch

inductive Stage
  | dataCollecting
  | dataCollectionComplete
  | training
  | trained
  | ranking
  | ranked
deriving DecidableEq, Repr, Inhabited

namespace Stage

def all : List Stage :=
  [dataCollecting, dataCollectionComplete, training, trained, ranking, ranked]

/-- The place in the pipeline, from zero. -/
def position : Stage → Nat
  | dataCollecting => 0
  | dataCollectionComplete => 1
  | training => 2
  | trained => 3
  | ranking => 4
  | ranked => 5

instance : LE Stage := ⟨fun a b => a.position ≤ b.position⟩
instance : LT Stage := ⟨fun a b => a.position < b.position⟩

instance (a b : Stage) : Decidable (a ≤ b) := inferInstanceAs (Decidable (a.position ≤ b.position))
instance (a b : Stage) : Decidable (a < b) := inferInstanceAs (Decidable (a.position < b.position))

def wireName : Stage → String
  | dataCollecting => "QS_DATACOLL"
  | dataCollectionComplete => "QS_DATACOLL_COMPLETE"
  | training => "QS_TRAINING"
  | trained => "QS_TRAINED"
  | ranking => "QS_RANKING"
  | ranked => "QS_RANKED"

def label : Stage → String
  | dataCollecting => "DATA_COLLECTING"
  | dataCollectionComplete => "DATA_COLLECTION_COMPLETE"
  | training => "TRAINING"
  | trained => "TRAINED"
  | ranking => "RANKING"
  | ranked => "RANKED"

/-- Whether two texts are equal up to the case of ASCII letters. -/
def sameLetters (a b : String) : Bool := a.toList.map Char.toLower == b.toList.map Char.toLower

/-- The stage that a text names, whatever white space surrounds it. -/
def ofText? (raw : String) : Option Stage :=
  let name := Text.trim raw
  all.find? fun s => sameLetters s.wireName name || sameLetters s.label name

def isTerminal (s : Stage) : Bool := s == ranked

theorem ofText?_wireName (s : Stage) : ofText? s.wireName = some s := by
  cases s <;> decide +kernel

theorem ofText?_label (s : Stage) : ofText? s.label = some s := by
  cases s <;> decide +kernel

end Stage

end RankedSearch
