import RankedSearch.Session.View

/-! The report on a session: a line for each item that is shown, the pages, and the precision
figures if there are any. -/

namespace RankedSearch.CommandLine

open RankedSearch.Number RankedSearch.Session

def padLeft (width : Nat) (s : String) : String :=
  String.ofList (List.replicate (width - s.length) ' ') ++ s

def padRight (width : Nat) (s : String) : String :=
  s ++ String.ofList (List.replicate (width - s.length) ' ')

/-- How an item is marked: a mark of the user counts for more than what the service knows. -/
def marker (item : Item) : String :=
  if item.falseNegative then "fn" else if item.isDistractor then "d" else "-"

def itemLine (index : Nat) (item : Item) : String :=
  " ".intercalate
    [padLeft 5 (toString index), padLeft 8 (item.score.toFixed 4), padRight 2 (marker item),
      item.path]

def pageLine (v : View) : String := s!"page {v.currentPage}/{v.pageCount} visited {v.visited}"

/-- A figure with three places. -/
def figure : Option Single → String
  | some x => x.toFixed 3
  | none => "n/a"

def precisionLine (p : Precision) : String :=
  s!"precision@50 {figure p.at50} precision@100 {figure p.at100} " ++
    s!"distractor precision@100 {figure p.distractorsAt100}"

def report (v : View) (hideFalseNegatives : Bool) : List String :=
  ((v.visibleItems hideFalseNegatives).map fun (index, item) => itemLine index item) ++
    [pageLine v] ++ v.precision.toList.map precisionLine

end RankedSearch.CommandLine
