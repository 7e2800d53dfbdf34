/-! Words within texts. -/

namespace RankedSearch.Text

/-- Whether `word` stands somewhere in the list. -/
def occurs (word : List Char) : List Char → Bool
  | [] => word.isEmpty
  | c :: cs => word.isPrefixOf (c :: cs) || occurs word cs

theorem occurs_iff_isInfix {word cs : List Char} : occurs word cs = true ↔ word <:+: cs := by
  induction cs with
  | nil => simp [occurs]
  | cons c cs ih => simp [occurs, ih, List.infix_cons_iff]

/-- The text with the capital letters of ASCII made small. -/
def lowerAscii (s : String) : String := String.ofList (s.toList.map Char.toLower)

end RankedSearch.Text
