import RankedSearch.Text.Percent
import RankedSearch.Text.Pieces
import RankedSearch.Url.Domain.Composition
import RankedSearch.Url.Domain.Direction
import RankedSearch.Url.Domain.Joining
import RankedSearch.Url.Domain.Mapping
import RankedSearch.Url.Punycode

/-! Domain names in the ASCII form that requests use. Letters become small ones, characters that
only look different become the usual ones, and labels with other characters are written in
Punycode. -/

namespace RankedSearch.Url.Domain

open RankedSearch.Text

/-- A text as names are compared: each character as what it is taken for, in normal form. -/
def folded? (cs : List Char) : Option (List Char) :=
  (cs.mapM mapped?).map fun texts => Composition.normal texts.flatten

/-- Characters of ASCII that no domain name has. -/
def isForbidden (c : Char) : Bool :=
  c.toNat ≤ 0x20 || c.toNat = 0x7F ||
    ['%', '#', '/', ':', '<', '>', '?', '@', '[', '\\', ']', '^', '|'].contains c

/-! ## Labels -/

/-- How long a label may be that is not in ASCII. -/
def maxLength : Nat := 1000

/-- How much of a label may be in Punycode. -/
def maxCoded : Nat := 2000

def marker : List Char := ['x', 'n', '-', '-']

/-- Whether folded characters make a label. -/
def isLabel (label : List Char) : Bool :=
  !label.head?.any isMark && Joining.arePlaced [] label && label.length ≤ maxLength

/-- The characters of a folded label. One that claims to be in Punycode has to be the writing of a
label that needs it. -/
def label? (text : List Char) : Option (List Char) :=
  if text.take 4 = marker then
    let coded := text.drop 4
    if maxCoded < coded.length then none
    else
      (Punycode.decode? coded).filter fun label =>
        !label.all Punycode.isBasic && folded? label = some label && isLabel label &&
          Punycode.encode label = coded
  else if text.all Punycode.isBasic ∨ isLabel text then some text
  else none

/-- The ASCII form of a label. -/
def written (label : List Char) : List Char :=
  if label.all Punycode.isBasic then label else marker ++ Punycode.encode label

/-! ## Names -/

/-- The labels between two points of a name, folded. Other characters may turn out to be points. -/
def foldedLabels? (text : List Char) : Option (List (List Char)) :=
  if text.all Punycode.isBasic then some [text.map Char.toLower]
  else (folded? text).map (pieces '.')

/-- Whether labels may stand together in a name. -/
def areSteady (labels : List (List Char)) : Bool :=
  if labels.any (·.any Direction.isLeftward) then labels.all Direction.isSteady else true

/-- The ASCII form of a name, which may have percent escapes; `none` if it is no name. -/
def toAscii? (name : String) : Option (List Char) := do
  let text ← ofUtf8? (Percent.unescape (utf8 name))
  let folded ← (pieces '.' text.toList).mapM foldedLabels?
  if folded.flatten.any (·.any isForbidden) then none
  else
    let labels ← folded.flatten.mapM label?
    if areSteady labels then return List.intercalate ['.'] (labels.map written) else none

end RankedSearch.Url.Domain
