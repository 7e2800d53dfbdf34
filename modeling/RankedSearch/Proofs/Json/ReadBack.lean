import RankedSearch.Proofs.Json.Grammar

/-! # Printed JSON reads back

The printer writes values by the grammar, without white space. Its texts read as the values they
were printed from, with two reservations: a string has to have a text, and of the digits of a number
no more are read than 64 bits hold. -/
namespace RankedSearch.Json

/-! ## What a printed value reads as -/

namespace Value

mutual

/-- Whether every string of the value has a text. -/
def isWritten : Value → Bool
  | .null | .bool _ | .number _ => true
  | .string s => s.isSome
  | .array items => areWritten items
  | .object members => haveWritten members

def areWritten : List Value → Bool
  | [] => true
  | item :: items => item.isWritten && areWritten items

def haveWritten : List (Option String × Value) → Bool
  | [] => true
  | (name, value) :: members => name.isSome && value.isWritten && haveWritten members

end

mutual

def reread : Value → Value
  | .number n => .number n.reread
  | .array items => .array (allReread items)
  | .object members => .object (membersReread members)
  | v => v

def allReread : List Value → List Value
  | [] => []
  | item :: items => item.reread :: allReread items

def membersReread : List (Option String × Value) → List (Option String × Value)
  | [] => []
  | (name, value) :: members => (name, value.reread) :: membersReread members

end

end Value

/-! ## Printing -/

open RankedSearch.Json.Parser

theorem writing_string (s : String) : Writing (.text s) (Printer.string s) :=
  .string (spelled_chars s.toList)

theorem writingName_string (name : String) :
    WritingName name (Printer.string name ++ [':']) := by
  have hname := WritingName.mk blank_nil (spelled_chars name.toList) blank_nil
  simpa [Printer.string] using hname

mutual

/-- The printer writes a value by the grammar. -/
theorem writing_value : ∀ {v : Value}, v.isWritten = true → Writing v.reread (Printer.value v)
  | .null, _ => .null
  | .bool true, _ => .yes
  | .bool false, _ => .no
  | .number n, _ => .number n
  | .string s, h => by
    obtain ⟨s, rfl⟩ := Option.isSome_iff_exists.mp h
    exact writing_string s
  | .array [], _ => .noItems blank_nil
  | .array (item :: items), h => by
    rw [Printer.value]
    exact .items (writing_elements h (by simp))
  | .object [], _ => .noMembers blank_nil
  | .object (m :: members), h => by
    rw [Printer.value]
    exact .members (writing_fields h (by simp))

theorem writing_elements : ∀ {items : List Value}, Value.areWritten items = true → items ≠ [] →
    WritingItems (Value.allReread items) (Printer.elements items ++ [']'])
  | [], _, hne => absurd rfl hne
  | [item], h, _ => by
    rw [Value.areWritten, Bool.and_eq_true] at h
    rw [Printer.elements]
    exact .last (writing_value h.1) blank_nil
  | item :: other :: items, h, _ => by
    rw [Value.areWritten, Bool.and_eq_true] at h
    have hrest := writing_elements h.2 (by simp)
    rw [Printer.elements, List.append_assoc]
    · exact .more (writing_value h.1) blank_nil hrest
    · simp

theorem writing_fields : ∀ {members : List (Option String × Value)},
    Value.haveWritten members = true → members ≠ [] →
      WritingMembers (Value.membersReread members) (Printer.fields members ++ ['\x7d'])
  | [], _, hne => absurd rfl hne
  | [(name, v)], h, _ => by
    rw [Value.haveWritten, Bool.and_eq_true, Bool.and_eq_true] at h
    obtain ⟨name, rfl⟩ := Option.isSome_iff_exists.mp h.1.1
    have hlast := WritingMembers.last (writingName_string name) (writing_value h.1.2) blank_nil
    simpa [Printer.fields, Value.membersReread] using hlast
  | (name, v) :: other :: members, h, _ => by
    rw [Value.haveWritten, Bool.and_eq_true, Bool.and_eq_true] at h
    obtain ⟨name, rfl⟩ := Option.isSome_iff_exists.mp h.1.1
    have hrest := writing_fields h.2 (by simp)
    have hmore :=
      WritingMembers.more (writingName_string name) (writing_value h.1.2) blank_nil hrest
    rw [Value.membersReread, Printer.fields]
    · simpa using hmore
    · simp

end

/-- A printed value is a document. -/
theorem document_render {v : Value} (h : v.isWritten = true) : Document v.reread v.render := by
  have hdocument := Document.mk (writing_value h) blank_nil
  rwa [List.append_nil] at hdocument

/-- **Printed JSON reads back.** -/
theorem parse?_render {v : Value} (h : v.isWritten = true) : parse? v.render = some v.reread :=
  (document_render h).read

end RankedSearch.Json
