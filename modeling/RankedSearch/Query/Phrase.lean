import RankedSearch.Text.Blank
import RankedSearch.Text.Base64

/-! The words that a query searches for: a text that is not empty and has no white space at its
ends. In a route it is written as unpadded base64 of its UTF-8 bytes in the URL-safe alphabet;
reading also takes the standard alphabet, padding and white space around it. -/

namespace RankedSearch.Query

open RankedSearch.Text

structure Phrase where
  words : String
  trimmed : trim words = words
  nonempty : words ≠ ""
deriving DecidableEq

namespace Phrase

inductive Fault
  | blank
  | base64 (fault : Base64.Fault)
  | notUtf8
deriving DecidableEq, Repr

def Fault.reason : Fault → String
  | .blank => "query text must be non-empty."
  | .base64 fault => s!"query text is not valid base64: {fault.message}."
  | .notUtf8 => "decoded query text is not valid UTF-8."

def Fault.message (f : Fault) : String := "Invalid query text: " ++ f.reason

/-- The phrase of a text, without the white space around it. -/
def ofText (raw : String) : Except Fault Phrase :=
  if h : trim raw = "" then .error .blank else .ok ⟨trim raw, trim_trim raw, h⟩

def encode (p : Phrase) : String := ofAscii (Base64.encode Base64.urlSafe (utf8 p.words))

/-- Reads base64 symbols in the URL-safe alphabet, and if that fails in the standard one, whose
fault is then the one that counts. -/
def bytesOf (symbols : Bytes) : Except Fault Bytes :=
  match Base64.decode Base64.urlSafe symbols with
  | .ok bytes => .ok bytes
  | .error _ =>
    match Base64.decode Base64.standard symbols with
    | .ok bytes => .ok bytes
    | .error fault => .error (.base64 fault)

def decode (encoded : String) : Except Fault Phrase :=
  match bytesOf (utf8 (trimEndChar '=' (trim encoded))) with
  | .error fault => .error fault
  | .ok bytes =>
    match ofUtf8? bytes with
    | none => .error .notUtf8
    | some text => ofText text

end Phrase

end RankedSearch.Query
