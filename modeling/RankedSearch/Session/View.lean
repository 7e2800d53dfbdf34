import RankedSearch.Query.Route
import RankedSearch.Ranking
import RankedSearch.Stage

/-! What a session shows of itself after every change. -/

namespace RankedSearch.Session

structure View where
  route : Query.Route
  stage : Stage := .dataCollecting
  /-- The last image that data collection reported. -/
  lastProcessed : Option String := none
  collectionFinished : Bool := false
  trainingRequested : Bool := false
  rankingRequested : Bool := false
  items : List Item := []
  currentPage : UInt32 := 0
  pageCount : UInt32 := 0
  visited : UInt64 := 0
  precision : Option Precision := none
  /-- Marks that the service has not answered yet. -/
  pendingUpdates : Nat := 0
  loadingPage : Bool := false
  lastError : Option String := none
  /-- Commands taken off the queue. -/
  commandsHandled : Nat := 0
  closed : Bool := false
deriving DecidableEq

namespace View

def query (v : View) : Query.Id := v.route.id

def isRanked (v : View) : Bool := v.stage.isTerminal

def hasMorePages (v : View) : Bool := v.currentPage = 0 || v.currentPage < v.pageCount

/-- The items with their places in the list, without the marked ones if these are hidden. -/
def visibleItems (v : View) (hideFalseNegatives : Bool) : List (Nat × Item) :=
  (v.items.zipIdx.filter fun (item, _) => !(hideFalseNegatives && item.falseNegative)).map
    fun (item, index) => (index, item)

end View

end RankedSearch.Session
