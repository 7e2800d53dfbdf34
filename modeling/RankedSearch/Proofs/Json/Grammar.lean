import Mathlib.Data.Nat.Digits.Defs
import RankedSearch.Proofs.Json.Spelling
import RankedSearch.Text.Blank

/-! # The grammar of JSON

The texts that write a value: strings in every spelling, numbers as digits with an optional sign and
power of ten, and any white space between the tokens. Of the digits of a number no more are read
than 64 bits hold; apart from that every text reads as the value it writes. -/
namespace RankedSearch.Json

/-- What is left of a printed number when it is read: digits that 64 bits do not hold count as
places. -/
def Literal.reread (n : Literal) : Literal :=
  let digits := Printer.nat n.decimal.digits
  let (m, count) := Parser.gather 0 digits
  let dropped := digits.length - count
  ⟨n.negative, ⟨m, (if n.integral then 0 else n.decimal.exponent) + dropped⟩,
    n.integral && dropped = 0⟩

namespace Parser

/-! ## Digits -/

/-- A text that does not go on with a digit. -/
def NoDigit (rest : List Char) : Prop := ∀ c ∈ rest.head?, c.isDigit = false

/-- What can come right after a value: white space, a comma or a closing bracket. -/
def isEnd (c : Char) : Bool := isSpace c || c == ',' || c == ']' || c == '\x7d'

theorem isEnd_iff {c : Char} : isEnd c = true ↔
    c = ' ' ∨ c = '\t' ∨ c = '\n' ∨ c = '\r' ∨ c = ',' ∨ c = ']' ∨ c = '\x7d' := by
  simp [isEnd, isSpace, or_assoc]

theorem ne_of_isEnd {c d : Char} (h : isEnd c = true) (hd : isEnd d = false) : c ≠ d := by
  rintro rfl
  rw [h] at hd
  cases hd

/-- A text that can stand after a value: it is empty or goes on with the end of one. -/
def Ends (rest : List Char) : Prop := ∀ c ∈ rest.head?, isEnd c = true

theorem Ends.noDigit {rest : List Char} (h : Ends rest) : NoDigit rest := by
  intro c hc
  rcases isEnd_iff.mp (h c hc) with rfl | rfl | rfl | rfl | rfl | rfl | rfl <;> rfl

theorem noDigit_cons {c : Char} {rest : List Char} (h : c.isDigit = false) :
    NoDigit (c :: rest) := by
  intro d hd
  cases hd
  exact h

theorem isDigit_of_mem_nat {n : Nat} {c : Char} (h : c ∈ Printer.nat n) : c.isDigit = true :=
  Nat.isDigit_of_mem_toDigits (by decide) (by decide) h

theorem natOf_nat (n : Nat) : natOf (Printer.nat n) = n :=
  Nat.ofDigitChars_toDigits (by decide) (by decide)

/-- Only zero starts with a zero. -/
theorem head?_nat {n : Nat} (h : 0 < n) : (Printer.nat n).head? ≠ some '0' := by
  induction n using Nat.strong_induction_on with
  | h n ih =>
    unfold Printer.nat
    rw [Nat.toDigits_eq_if (by decide)]
    split
    · rename_i hn
      have hdigits : ∀ d < 10, 0 < d → some (Nat.digitChar d) ≠ some '0' := by decide
      exact hdigits n hn h
    · have hfront := ih (n / 10) (by omega) (by omega)
      obtain ⟨c, ds, hcons⟩ := List.exists_cons_of_ne_nil (@Nat.toDigits_ne_nil (n / 10) 10)
      rw [Printer.nat, hcons] at hfront
      rw [hcons]
      exact hfront

theorem exists_nat_cons (n : Nat) : ∃ c ds, Printer.nat n = c :: ds ∧ c.isDigit = true := by
  cases h : Printer.nat n with
  | nil => exact absurd h Nat.toDigits_ne_nil
  | cons c ds => exact ⟨c, ds, rfl, isDigit_of_mem_nat (h ▸ List.mem_cons_self ..)⟩

theorem spanDigits_append {digits rest : List Char} (hd : ∀ c ∈ digits, c.isDigit = true)
    (hr : NoDigit rest) : spanDigits (digits ++ rest) = (digits, rest) := by
  unfold spanDigits
  rw [List.takeWhile_append_of_pos hd, List.dropWhile_append_of_pos hd]
  cases rest with
  | nil => simp
  | cons c rest => simp [hr c rfl]

theorem someDigits?_nat (n : Nat) {rest : List Char} (hr : NoDigit rest) :
    someDigits? (Printer.nat n ++ rest) = some (Printer.nat n, rest) := by
  unfold someDigits?
  rw [spanDigits_append (fun _ => isDigit_of_mem_nat) hr]
  have hne : (Printer.nat n).isEmpty = false := by
    rw [List.isEmpty_eq_false_iff]
    exact Nat.toDigits_ne_nil
  simp [hne]

/-! ## Numbers -/

theorem integerPart?_nat (n : Nat) {rest : List Char} (hr : NoDigit rest) :
    integerPart? (Printer.nat n ++ rest) = some (Printer.nat n, rest) := by
  by_cases hn : n = 0
  · subst hn
    show (if rest.head?.any Char.isDigit then none else some (['0'], rest)) = some (['0'], rest)
    have hany : rest.head?.any Char.isDigit = false := by
      cases hc : rest.head? with
      | none => rfl
      | some c => exact hr c hc
    rw [hany]
    rfl
  · obtain ⟨c, ds, hcons, _⟩ := exists_nat_cons n
    have hc : c ≠ '0' := by
      rintro rfl
      exact head?_nat (Nat.pos_of_ne_zero hn) (by rw [hcons]; rfl)
    rw [← someDigits?_nat n hr, hcons, List.cons_append]
    unfold integerPart?
    split
    · rename_i h
      cases h
      exact absurd rfl hc
    · rfl

theorem fractionPart?_of_ne {rest : List Char} (h : rest.head? ≠ some '.') :
    fractionPart? rest = some (none, rest) := by
  unfold fractionPart?
  split
  · exact absurd rfl h
  · rfl

theorem exponentPart?_ends {rest : List Char} (h : Ends rest) :
    exponentPart? rest = some (none, rest) := by
  unfold exponentPart?
  cases rest with
  | nil => rfl
  | cons c rest =>
    have hc : ¬(c = 'e' ∨ c = 'E') :=
      not_or.mpr ⟨ne_of_isEnd (h c rfl) (by decide), ne_of_isEnd (h c rfl) (by decide)⟩
    exact if_neg hc

theorem exponentSign_nat (n : Nat) (rest : List Char) :
    exponentSign (Printer.nat n ++ rest) = (false, Printer.nat n ++ rest) := by
  obtain ⟨c, ds, hcons, hc⟩ := exists_nat_cons n
  rw [hcons, List.cons_append]
  unfold exponentSign
  split
  · rename_i h
    cases h
    cases hc
  · rename_i h
    cases h
    cases hc
  · rfl

/-- The exponent as a number is printed with it. -/
def exponentText (n : Literal) : List Char :=
  if n.integral then []
  else
    match n.decimal.exponent with
    | .ofNat e => 'e' :: Printer.nat e
    | .negSucc e => 'e' :: '-' :: Printer.nat (e + 1)

theorem exponentPart?_exponentText (n : Literal) {rest : List Char} (hr : Ends rest) :
    exponentPart? (exponentText n ++ rest) =
      some (if n.integral then none else some n.decimal.exponent, rest) := by
  unfold exponentText
  cases n.integral with
  | true => exact exponentPart?_ends hr
  | false =>
    rw [if_neg Bool.false_ne_true, if_neg Bool.false_ne_true]
    cases n.decimal.exponent with
    | ofNat e =>
      simp [exponentPart?, exponentSign_nat, someDigits?_nat e hr.noDigit, natOf_nat]
    | negSucc e =>
      have hsign : exponentSign ('-' :: (Printer.nat (e + 1) ++ rest)) =
          (true, Printer.nat (e + 1) ++ rest) := rfl
      simp [exponentPart?, hsign, someDigits?_nat (e + 1) hr.noDigit, natOf_nat, Int.negSucc_eq]

theorem noDigit_exponentText (n : Literal) {rest : List Char} (hr : Ends rest) :
    NoDigit (exponentText n ++ rest) ∧ (exponentText n ++ rest).head? ≠ some '.' := by
  unfold exponentText
  cases n.integral with
  | true =>
    refine ⟨hr.noDigit, fun h => ?_⟩
    exact ne_of_isEnd (hr '.' h) (by decide) rfl
  | false => cases n.decimal.exponent <;> exact ⟨noDigit_cons rfl, by simp⟩

theorem magnitude?_literal (n : Literal) {rest : List Char} (hr : Ends rest) :
    magnitude? n.negative (Printer.nat n.decimal.digits ++ (exponentText n ++ rest)) =
      some (n.reread, rest) := by
  obtain ⟨hdigit, hpoint⟩ := noDigit_exponentText n hr
  simp only [magnitude?, integerPart?_nat _ hdigit, fractionPart?_of_ne hpoint,
    exponentPart?_exponentText n hr, Option.bind_eq_bind, Option.bind_some]
  unfold Literal.reread
  cases n.integral <;> simp [gather]

theorem number?_literal (n : Literal) {rest : List Char} (hr : Ends rest) :
    number? (Printer.literal n ++ rest) = some (n.reread, rest) := by
  have hmagnitude := magnitude?_literal n hr
  have hsplit : Printer.literal n ++ rest = (if n.negative then ['-'] else []) ++
      (Printer.nat n.decimal.digits ++ (exponentText n ++ rest)) := by
    rw [Printer.literal, List.append_assoc, List.append_assoc]
    rfl
  rw [hsplit]
  cases hn : n.negative with
  | true =>
    rw [hn] at hmagnitude
    exact hmagnitude
  | false =>
    rw [hn] at hmagnitude
    obtain ⟨c, ds, hcons, hc⟩ := exists_nat_cons n.decimal.digits
    rw [hcons] at hmagnitude ⊢
    show number? (c :: (ds ++ (exponentText n ++ rest))) = _
    unfold number?
    split
    · rename_i h
      cases h
      cases hc
    · exact hmagnitude

/-- A printed number starts with a digit or a sign. -/
theorem exists_literal_cons (n : Literal) :
    ∃ c cs, Printer.literal n = c :: cs ∧ (c = '-' ∨ c.isDigit = true) := by
  obtain ⟨c, ds, hcons, hc⟩ := exists_nat_cons n.decimal.digits
  unfold Printer.literal
  cases n.negative with
  | true => exact ⟨'-', _, rfl, Or.inl rfl⟩
  | false =>
    rw [hcons]
    exact ⟨c, _, rfl, Or.inr hc⟩

theorem ne_of_isDigit {c d : Char} (h : c.isDigit = true) (hd : d.isDigit = false) : c ≠ d := by
  rintro rfl
  rw [h] at hd
  cases hd

theorem not_isSpace_of_isDigit {c : Char} (h : c.isDigit = true) : isSpace c = false := by
  unfold isSpace
  simp [ne_of_isDigit h (d := ' ') rfl, ne_of_isDigit h (d := '\t') rfl,
    ne_of_isDigit h (d := '\n') rfl, ne_of_isDigit h (d := '\r') rfl]

/-! ## White space -/

theorem skipSpace_cons {c : Char} {cs : List Char} (h : isSpace c = false) :
    skipSpace (c :: cs) = c :: cs := by
  unfold skipSpace
  rw [List.dropWhile_cons_of_neg (by rw [h]; exact Bool.false_ne_true)]

theorem skipSpace_skipSpace (cs : List Char) : skipSpace (skipSpace cs) = skipSpace cs :=
  Text.dropWhile_idem isSpace cs

/-- White space, as much of it as there may be around a token. -/
def Blank (cs : List Char) : Prop := ∀ c ∈ cs, isSpace c = true

theorem blank_nil : Blank [] := fun _ h => (List.not_mem_nil h).elim

theorem skipSpace_append {blank : List Char} (h : Blank blank) (cs : List Char) :
    skipSpace (blank ++ cs) = skipSpace cs := List.dropWhile_append_of_pos h

theorem ends_cons {c : Char} (h : isEnd c = true) (rest : List Char) : Ends (c :: rest) := by
  rintro d ⟨⟩
  exact h

theorem Blank.ends {blank rest : List Char} (h : Blank blank) (hr : Ends rest) :
    Ends (blank ++ rest) := by
  cases blank with
  | nil => exact hr
  | cons c blank =>
    have hc : isEnd c = true := by
      unfold isEnd
      rw [h c (List.mem_cons_self ..)]
      rfl
    exact ends_cons hc _

end Parser

/-! ## Texts of a value -/

open RankedSearch.Json.Parser

/-- The texts of a member's name, up to the colon. -/
inductive WritingName : String → List Char → Prop
  | mk {name : String} {before word between : List Char} (hbefore : Blank before)
      (h : Spelled name.toList word) (hbetween : Blank between) :
      WritingName name (before ++ '"' :: (word ++ '"' :: (between ++ [':'])))

mutual

/-- The texts that write a value, with or without white space in front. -/
inductive Writing : Value → List Char → Prop
  | after {v : Value} {blank text : List Char} (hblank : Blank blank) (h : Writing v text) :
      Writing v (blank ++ text)
  | null : Writing .null ['n', 'u', 'l', 'l']
  | yes : Writing (.bool true) ['t', 'r', 'u', 'e']
  | no : Writing (.bool false) ['f', 'a', 'l', 's', 'e']
  | number (n : Literal) : Writing (.number n.reread) (Printer.literal n)
  | string {s : String} {text : List Char} (h : Spelled s.toList text) :
      Writing (.text s) ('"' :: (text ++ ['"']))
  | noItems {blank : List Char} (hblank : Blank blank) :
      Writing (.array []) ('[' :: (blank ++ [']']))
  | items {items : List Value} {text : List Char} (h : WritingItems items text) :
      Writing (.array items) ('[' :: text)
  | noMembers {blank : List Char} (hblank : Blank blank) :
      Writing (.object []) ('\x7b' :: (blank ++ ['\x7d']))
  | members {members : List (Option String × Value)} {text : List Char}
      (h : WritingMembers members text) : Writing (.object members) ('\x7b' :: text)

/-- The texts of items, of which there is one at least, and the bracket that closes them. -/
inductive WritingItems : List Value → List Char → Prop
  | last {v : Value} {text blank : List Char} (h : Writing v text) (hblank : Blank blank) :
      WritingItems [v] (text ++ (blank ++ [']']))
  | more {v : Value} {items : List Value} {text blank rest : List Char} (h : Writing v text)
      (hblank : Blank blank) (hrest : WritingItems items rest) :
      WritingItems (v :: items) (text ++ (blank ++ ',' :: rest))

/-- The texts of members, of which there is one at least, and the brace that closes them. -/
inductive WritingMembers : List (Option String × Value) → List Char → Prop
  | last {name : String} {v : Value} {word text blank : List Char} (hname : WritingName name word)
      (h : Writing v text) (hblank : Blank blank) :
      WritingMembers [(some name, v)] (word ++ (text ++ (blank ++ ['\x7d'])))
  | more {name : String} {v : Value} {members : List (Option String × Value)}
      {word text blank rest : List Char} (hname : WritingName name word) (h : Writing v text)
      (hblank : Blank blank) (hrest : WritingMembers members rest) :
      WritingMembers ((some name, v) :: members) (word ++ (text ++ (blank ++ ',' :: rest)))

end

/-! ## Reading -/

namespace Parser

theorem value?_skipSpace (fuel : Nat) (cs : List Char) :
    value? fuel (skipSpace cs) = value? fuel cs := by
  cases fuel with
  | zero => rfl
  | succ fuel =>
    unfold value?
    rw [skipSpace_skipSpace]

theorem value?_append {blank : List Char} (h : Blank blank) (fuel : Nat) (cs : List Char) :
    value? fuel (blank ++ cs) = value? fuel cs := by
  rw [← value?_skipSpace, skipSpace_append h, value?_skipSpace]

theorem items?_skipSpace (fuel : Nat) (cs : List Char) :
    items? fuel (skipSpace cs) = items? fuel cs := by
  cases fuel with
  | zero => rfl
  | succ fuel => rw [items?, items?, value?_skipSpace]

theorem members?_skipSpace (fuel : Nat) (cs : List Char) :
    members? fuel (skipSpace cs) = members? fuel cs := by
  cases fuel with
  | zero => rfl
  | succ fuel => rw [members?, members?, skipSpace_skipSpace]

theorem value?_number (n : Literal) (fuel : Nat) {rest : List Char} (hr : Ends rest) :
    value? (fuel + 1) (Printer.literal n ++ rest) = some (.number n.reread, rest) := by
  have hnumber := number?_literal n hr
  obtain ⟨c, cs, hcons, hc⟩ := exists_literal_cons n
  rw [hcons] at hnumber ⊢
  have hspace : isSpace c = false := by
    rcases hc with rfl | hc
    · rfl
    · exact not_isSpace_of_isDigit hc
  have hne {d : Char} (hd : d.isDigit = false) (hminus : d ≠ '-') : c ≠ d := by
    rcases hc with rfl | hc
    · exact hminus.symm
    · exact ne_of_isDigit hc hd
  unfold value?
  rw [List.cons_append, skipSpace_cons hspace]
  split <;> rename_i h <;> cases h
  case h_8 =>
    show (number? (c :: cs ++ rest)).map _ = _
    rw [hnumber]
    rfl
  all_goals exact absurd rfl (hne rfl (by decide))

/-- A name, and how the reading of the member goes on after it. -/
theorem members?_name {name : String} {word rest : List Char} (h : WritingName name word)
    (fuel : Nat) :
    members? (fuel + 1) (word ++ rest) =
      match value? fuel rest with
      | none => none
      | some (value, rest) =>
        match skipSpace rest with
        | '\x7d' :: rest => some ([(some name, value)], rest)
        | ',' :: rest =>
          (members? fuel rest).map fun (members, rest) => ((some name, value) :: members, rest)
        | _ => none := by
  obtain ⟨hbefore, h, hbetween⟩ := h
  rename_i before word between
  have htext : before ++ '"' :: (word ++ '"' :: (between ++ [':'])) ++ rest =
      before ++ '"' :: (word ++ '"' :: (between ++ ':' :: rest)) := by simp
  have hread := h.read (between ++ ':' :: rest)
  rw [htext, members?, skipSpace_append hbefore, skipSpace_cons rfl]
  conv_lhs => simp_match
  rw [hread]
  conv_lhs => simp_match
  rw [skipSpace_append hbetween, skipSpace_cons rfl]
  rfl

end Parser

/-- The text of a value goes on, after the white space in front, with a character that closes
nothing. -/
theorem Writing.exists_cons : ∀ {v : Value} {text : List Char}, Writing v text →
    ∀ rest, ∃ c cs, skipSpace (text ++ rest) = c :: cs ∧ c ≠ ']'
  | _, _, .after hblank h, rest => by
    rw [List.append_assoc, skipSpace_append hblank]
    exact h.exists_cons rest
  | _, _, .number n, rest => by
    obtain ⟨c, cs, hcons, hc⟩ := exists_literal_cons n
    rw [hcons, List.cons_append]
    rcases hc with rfl | hc
    · exact ⟨_, _, rfl, by decide⟩
    · exact ⟨_, _, skipSpace_cons (not_isSpace_of_isDigit hc), ne_of_isDigit hc rfl⟩
  | _, _, .null, _ | _, _, .yes, _ | _, _, .no, _ | _, _, .string _, _ | _, _, .noItems _, _
  | _, _, .items _, _ | _, _, .noMembers _, _ | _, _, .members _, _ => ⟨_, _, rfl, by decide⟩

theorem WritingItems.exists_cons {items : List Value} {text : List Char}
    (h : WritingItems items text) (rest : List Char) :
    ∃ c cs, skipSpace (text ++ rest) = c :: cs ∧ c ≠ ']' := by
  cases h with
  | last h | more h =>
    rw [List.append_assoc]
    exact h.exists_cons _

theorem WritingMembers.exists_cons {members : List (Option String × Value)} {text : List Char}
    (h : WritingMembers members text) (rest : List Char) :
    ∃ cs, skipSpace (text ++ rest) = '"' :: cs := by
  cases h with
  | last hname | more hname =>
    obtain ⟨hbefore, _, _⟩ := hname
    rw [List.append_assoc, List.append_assoc, skipSpace_append hbefore]
    exact ⟨_, rfl⟩

theorem Writing.length_pos : ∀ {v : Value} {text : List Char}, Writing v text → 0 < text.length
  | _, _, .after _ h => by
    have := h.length_pos
    rw [List.length_append]
    omega
  | _, _, .number n => by
    obtain ⟨c, cs, hcons, _⟩ := exists_literal_cons n
    rw [hcons]
    exact Nat.succ_pos _
  | _, _, .null | _, _, .yes | _, _, .no | _, _, .string _ | _, _, .noItems _
  | _, _, .items _ | _, _, .noMembers _ | _, _, .members _ => Nat.succ_pos _

mutual

/-- **Every text of a value reads as that value**, whatever stands after it. -/
theorem Writing.read : ∀ {v : Value} {text : List Char}, Writing v text → ∀ (fuel : Nat)
    (rest : List Char), 2 * text.length ≤ fuel → Ends rest →
      value? fuel (text ++ rest) = some (v, rest)
  | _, _, .after hblank h, fuel, rest, hfuel, hr => by
    rw [List.length_append] at hfuel
    rw [List.append_assoc, value?_append hblank]
    exact h.read _ _ (by omega) hr
  | _, _, .null, fuel + 1, _, _, _ => rfl
  | _, _, .yes, fuel + 1, _, _, _ => rfl
  | _, _, .no, fuel + 1, _, _, _ => rfl
  | _, _, .number n, fuel, rest, hfuel, hr => by
    have := (Writing.number n).length_pos
    obtain ⟨fuel, rfl⟩ : ∃ n, fuel = n + 1 := ⟨fuel - 1, by omega⟩
    exact value?_number n fuel hr
  | _, _, .string h, fuel + 1, rest, _, _ => by
    show (string? ((_ ++ ['"']) ++ rest)).map _ = _
    rw [List.append_assoc, List.singleton_append, h.read]
    rfl
  | _, _, .noItems hblank, fuel + 1, rest, _, _ => by
    rw [List.cons_append, List.append_assoc, value?, skipSpace_cons rfl]
    conv_lhs => simp_match
    rw [List.singleton_append, skipSpace_append hblank]
    rfl
  | _, _, .items h, fuel + 1, rest, hfuel, _ => by
    rw [List.length_cons] at hfuel
    have hitems := h.read fuel rest (by omega)
    obtain ⟨c, cs, hcons, hc⟩ := h.exists_cons rest
    rw [← items?_skipSpace, hcons] at hitems
    rw [List.cons_append, value?, skipSpace_cons rfl]
    conv_lhs => simp_match
    rw [hcons]
    split
    · rename_i heq
      cases heq
      exact absurd rfl hc
    · rw [hitems]
      rfl
  | _, _, .noMembers hblank, fuel + 1, rest, _, _ => by
    rw [List.cons_append, List.append_assoc, value?, skipSpace_cons rfl]
    conv_lhs => simp_match
    rw [List.singleton_append, skipSpace_append hblank]
    rfl
  | _, _, .members h, fuel + 1, rest, hfuel, _ => by
    rw [List.length_cons] at hfuel
    have hmembers := h.read fuel rest (by omega)
    obtain ⟨cs, hcons⟩ := h.exists_cons rest
    rw [← members?_skipSpace, hcons] at hmembers
    rw [List.cons_append, value?, skipSpace_cons rfl]
    conv_lhs => simp_match
    rw [hcons]
    show (members? fuel _).map _ = _
    rw [hmembers]
    rfl

theorem WritingItems.read : ∀ {items : List Value} {text : List Char}, WritingItems items text →
    ∀ (fuel : Nat) (rest : List Char), 2 * text.length ≤ fuel →
      items? fuel (text ++ rest) = some (items, rest)
  | _, _, .last h hblank, fuel, rest, hfuel => by
    simp only [List.length_append, List.length_singleton] at hfuel
    obtain ⟨fuel, rfl⟩ : ∃ n, fuel = n + 1 := ⟨fuel - 1, by omega⟩
    rw [List.append_assoc, List.append_assoc, List.singleton_append, items?,
      h.read _ _ (by omega) (hblank.ends (ends_cons (by decide) rest))]
    conv_lhs => simp_match
    rw [skipSpace_append hblank]
    rfl
  | _, _, .more h hblank hrest, fuel, rest, hfuel => by
    simp only [List.length_append, List.length_cons] at hfuel
    obtain ⟨fuel, rfl⟩ : ∃ n, fuel = n + 1 := ⟨fuel - 1, by omega⟩
    rw [List.append_assoc, List.append_assoc, List.cons_append, items?,
      h.read _ _ (by omega) (hblank.ends (ends_cons (by decide) _))]
    conv_lhs => simp_match
    rw [skipSpace_append hblank, skipSpace_cons rfl]
    conv_lhs => simp_match
    rw [hrest.read _ _ (by omega)]
    rfl

theorem WritingMembers.read : ∀ {members : List (Option String × Value)} {text : List Char},
    WritingMembers members text → ∀ (fuel : Nat) (rest : List Char), 2 * text.length ≤ fuel →
      members? fuel (text ++ rest) = some (members, rest)
  | _, _, .last hname h hblank, fuel, rest, hfuel => by
    simp only [List.length_append, List.length_singleton] at hfuel
    obtain ⟨fuel, rfl⟩ : ∃ n, fuel = n + 1 := ⟨fuel - 1, by omega⟩
    rw [List.append_assoc, List.append_assoc, List.append_assoc, List.singleton_append,
      members?_name hname,
      h.read _ _ (by omega) (hblank.ends (ends_cons (by decide) rest))]
    conv_lhs => simp_match
    rw [skipSpace_append hblank]
    rfl
  | _, _, .more hname h hblank hrest, fuel, rest, hfuel => by
    simp only [List.length_append, List.length_cons] at hfuel
    obtain ⟨fuel, rfl⟩ : ∃ n, fuel = n + 1 := ⟨fuel - 1, by omega⟩
    rw [List.append_assoc, List.append_assoc, List.append_assoc, List.cons_append,
      members?_name hname, h.read _ _ (by omega) (hblank.ends (ends_cons (by decide) _))]
    conv_lhs => simp_match
    rw [skipSpace_append hblank, skipSpace_cons rfl]
    conv_lhs => simp_match
    rw [hrest.read _ _ (by omega)]
    rfl

end

/-- A text with a value and nothing else but white space around it. -/
inductive Document : Value → String → Prop
  | mk {v : Value} {text blank : List Char} (h : Writing v text) (hblank : Blank blank) :
      Document v (String.ofList (text ++ blank))

/-- **A document reads as its value.** -/
theorem Document.read {v : Value} {s : String} (h : Document v s) : parse? s = some v := by
  obtain ⟨h, hblank⟩ := h
  rename_i text blank
  have hempty : Ends [] := by rintro c ⟨⟩
  have hends := hblank.ends hempty
  have hskip := skipSpace_append hblank []
  rw [List.append_nil] at hends hskip
  have hread := h.read (2 * (text ++ blank).length + 2) blank (by rw [List.length_append]; omega)
    hends
  unfold parse?
  rw [String.toList_ofList]
  dsimp only
  rw [hread]
  dsimp only
  rw [hskip]
  rfl

end RankedSearch.Json
