import RankedSearch.Text.Percent
import RankedSearch.Text.Pieces

/-! The form encoding of name and value pairs, `application/x-www-form-urlencoded`. Writing keeps
ASCII letters, digits and `*-._`, turns a space into a plus sign and every other byte into a percent
escape. Reading takes any text: empty pairs are skipped, a percent sign that starts no escape
stands for itself, and bytes that are no text are repaired. -/

namespace RankedSearch.Text.FormEncoding

open Percent (escape isAlphanumeric unescape)

/-! ## Bytes of the format -/

def ampersand : UInt8 := 0x26
def equalsSign : UInt8 := 0x3D
def plusSign : UInt8 := 0x2B
def space : UInt8 := 0x20

/-- The bytes that are written as they are. -/
def isKept (b : UInt8) : Bool :=
  isAlphanumeric b || b == 0x2A || b == 0x2D || b == 0x2E || b == 0x5F

/-! ## Writing -/

def encodeByte (b : UInt8) : Bytes :=
  if isKept b then [b] else if b = space then [plusSign] else escape b

def encodeComponent (s : String) : Bytes := (utf8 s).flatMap encodeByte

def encodePair (pair : String × String) : Bytes :=
  encodeComponent pair.1 ++ [equalsSign] ++ encodeComponent pair.2

def encode (pairs : List (String × String)) : String :=
  ofAscii (List.intercalate [ampersand] (pairs.map encodePair))

/-! ## Reading -/

def decodeComponent (bs : Bytes) : String :=
  ofUtf8Lossy (unescape (bs.map fun b => if b = plusSign then space else b))

/-- The pieces between the ampersands that are not empty. -/
def segments (form : String) : List Bytes :=
  (pieces ampersand (utf8 form)).filter (!·.isEmpty)

def decodePair (segment : Bytes) : String × String :=
  let (name, value) := splitFirst equalsSign segment
  (decodeComponent name, decodeComponent value)

def decode (form : String) : List (String × String) := (segments form).map decodePair

end RankedSearch.Text.FormEncoding
