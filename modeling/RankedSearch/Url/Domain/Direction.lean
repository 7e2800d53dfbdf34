import RankedSearch.Url.Domain.Mark

/-! The direction in which labels are written. A name that has letters written to the left may mix
them with others only so far that each label reads the same wherever it is shown. -/

namespace RankedSearch.Url.Domain

open RankedSearch.Text

inductive Direction
  /-- Letters written to the right, as in Latin. -/
  | toRight
  /-- Letters written to the left, as in Hebrew and Arabic. -/
  | toLeft
  | digit
  | arabicDigit
  /-- Marks, which go with the letter before them. -/
  | mark
  | neutral
deriving DecidableEq, Repr

namespace Direction

def ofWord? : List Char → Option Direction
  | ['=', 'R'] => some .toLeft
  | ['=', 'E'] => some .digit
  | ['=', 'A'] => some .arabicDigit
  | ['=', 'N'] => some .neutral
  | _ => none

/-- Letters written to the right are not listed, nor are marks. -/
def table : Array (Run Direction) := Runs.ofText ofWord? "
  21-2E=N 30-39=E 3B-60=N 7B-D7=N F7=N 2B9-2BA=N 2C2-2CF=N 2D2-2ED=N 2EF-2FF=N 375=N 3F6=N
  58A-58F=N 5BE-5F4=R 606-607=N =R 609-60A=N =R =N =R 60E-60F=N 61B-64A=R 660-669=A =N 66B-66C=A
  66D-6D5=R 6DE=N 6E5-6E6=R 6E9=N 6EE-6EF=R 6F0-6F9=E 6FA-7F5=R 7F6-7F9=N 7FA-8C9=R 9F2-9F3=N
  9FB=N AF1=N BF3-BFA=N C78-C7E=N E3F=N F3A-F3D=N 1390-1399=N 1400=N 169B-169C=N 17DB=N
  17F0-180A=N 1940-1945=N 19DE-19FF=N 200C-214D=N 218A-2335=N 237B-2394=N 2396-26AB=N 26AD-27FF=N
  2900-2BFF=N 2CE5-2CEA=N 2CF9-2CFF=N 2E00-3004=N 3008-3020=N 3030=N 3037=N 303D-303F=N 30A0=N
  30FB=N 31C0-31E5=N 4DC0-4DFF=N A490-A4C6=N A60D-A60F=N A673-A67F=N A700-A721=N A788=N
  A828-A82B=N A838-A839=N A874-A877=N AB6A-AB6B=N FBB2-FBC2=R FBC3-FE46=N FE73=R 10101=N
  10140-1018C=N 10190-101A0=N 102E1-102FB=E 10800-1091B=R 1091F=N 10920-10B35=R 10B39-10B3F=N
  10B40-10D23=R 10D30-10D39=A 10D40-10D4F=R 10D6E=N 10D6F-10D8F=R 10E60-10E7E=A 10E80-10EC7=R
  10ED0-10ED8=N 10F00-10FF6=R 11052-11065=N 11660-1166C=N 11FD5-11FF1=N 16FE2=N 1CC00-1CEF0=N
  1D1E9-1D245=N 1D300-1D356=N 1E2FF=N 1E800-1ED3D=R 1EEF0-1F12F=N 1F16D-1F16F=N 1F1AD=N
  1F260-1FBFA=N"

/-- Marks that count as letters. -/
def lettersAmongMarks : List Nat := [0xCBF, 0xCC6, 0x11A07, 0x11A08, 0x11C3F]

def ofChar (c : Char) : Direction :=
  if isNonspacing c ∧ ¬lettersAmongMarks.contains c.toNat then .mark
  else (Runs.value? table c.toNat).getD .toRight

/-- Whether a label with this character makes the name one with letters to the left. -/
def isLeftward (c : Char) : Bool :=
  if c.toNat < 0x590 then false else ofChar c = .toLeft || ofChar c = .arabicDigit

/-- Whether a label reads the same everywhere: it starts with a letter, has no letters of the other
direction, and ends, marks apart, in a letter or digit. Digits of both kinds do not meet. -/
def isSteady (label : List Char) : Bool :=
  let directions := label.map ofChar
  let last := (directions.reverse.dropWhile (· = .mark)).head?
  match directions.head? with
  | none => true
  | some .toRight =>
    !directions.contains .toLeft && !directions.contains .arabicDigit &&
      (last = some .toRight || last = some .digit)
  | some .toLeft =>
    !directions.contains .toRight &&
      (last = some .toLeft || last = some .digit || last = some .arabicDigit) &&
      !(directions.contains .digit && directions.contains .arabicDigit)
  | some _ => false

end Direction

end RankedSearch.Url.Domain
