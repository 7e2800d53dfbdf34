import RankedSearch.Url.Domain.Mark

/-! Letters that are written together with their neighbours, and the two characters without width
that change how they join. In a name these stand only where they can be seen to do so. -/

namespace RankedSearch.Url.Domain

open RankedSearch.Text

/-- The sides on which a letter joins others. -/
structure Joining where
  before : Bool
  after : Bool
deriving DecidableEq, Repr

namespace Joining

def ofWord? : List Char → Option Joining
  | ['=', 'D'] => some { before := true, after := true }
  | ['=', 'R'] => some { before := true, after := false }
  | ['=', 'L'] => some { before := false, after := true }
  | _ => none

/-- Letters that join none are not listed. -/
def table : Array (Run Joining) := Runs.ofText ofWord? "
  620=D 622-625=R =D =R =D =R 62A-62E=D 62F-632=R 633-63F=D 641-647=D =R 649-64A=D 66E-66F=D
  671-673=R 675-677=R 678-687=D 688-699=R 69A-6BF=D =R 6C1-6C2=D 6C3-6CB=R =D =R =D =R 6D0-6D1=D
  6D2-6D3=R 6D5=R 6EE-6EF=R 6FA-6FC=D 6FF=D 710=R 712-714=D 715-719=R 71A-71D=D =R 71F-727=D =R =D
  =R =D =R 72D-72E=D =R 74D=R 74E-758=D 759-75B=R 75C-76A=D 76B-76C=R 76D-770=D =R =D 773-774=R
  775-777=D 778-779=R 77A-77F=D 7CA-7EA=D 840=R 841-845=D 846-847=R =D =R 84A-853=D =R =D
  856-858=R 860=D 862-865=D 867=R =D 869-86A=R 870-882=R 886=D 889-88D=D =R =D 8A0-8A9=D 8AA-8AC=R
  8AE=R 8AF-8B0=D 8B1-8B2=R 8B3-8B8=D =R 8BA-8C8=D 1807=D 1820-1878=D 1887-18A8=D 18AA=D
  A840-A871=D =L 10AC0-10AC4=D =R 10AC7=R 10AC9-10ACA=R 10ACD=L 10ACE-10AD2=R 10AD3-10AD6=D =L
  10AD8-10ADC=D =R 10ADE-10AE0=D =R 10AE4=R 10AEB-10AEE=D =R 10B80=D =R =D 10B83-10B85=R
  10B86-10B88=D =R 10B8A-10B8B=D =R =D 10B8E-10B8F=R =D =R 10BA9-10BAC=R 10BAD-10BAE=D 10D00=L
  10D01-10D21=D =R =D 10EC2=R 10EC3-10EC4=D 10EC6-10EC7=D 10F30-10F32=D =R 10F34-10F44=D
  10F51-10F53=D =R 10F70-10F73=D 10F74-10F75=R 10F76-10F81=D 10FB0=D 10FB2-10FB3=D 10FB4-10FB6=R
  10FB8=D 10FB9-10FBA=R 10FBB-10FBC=D =R 10FBE-10FBF=D 10FC1=D 10FC2-10FC3=R =D 10FC9=R =D =L
  1E900-1E943=D"

def ofChar? (c : Char) : Option Joining := Runs.value? table c.toNat

/-- Characters over which letters join. -/
def isTransparent (c : Char) : Bool := isNonspacing c || c.toNat = 0x1E94B

/-- Whether the first letter of a text, marks apart, joins on a side. -/
def meets (side : Joining → Bool) (cs : List Char) : Bool :=
  (cs.dropWhile isTransparent).head?.any fun c => (ofChar? c).any side

/-- The rank of the marks that leave a consonant without its vowel. -/
def viramaRank : Nat := 9

def endsInVirama (before : List Char) : Bool := before.head?.any (rank · = viramaRank)

/-- Whether every joiner and non-joiner has its place: after a virama, or, if it keeps letters
apart, between two that would join. The text before is written backwards. -/
def arePlaced (before : List Char) : List Char → Bool
  | [] => true
  | c :: rest =>
    (if c = '\u200d' then endsInVirama before
      else if c = '\u200c' then
        endsInVirama before || (meets Joining.after before && meets Joining.before rest)
      else true) && arePlaced (c :: before) rest

end Joining

end RankedSearch.Url.Domain
