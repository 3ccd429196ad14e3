/-!
# Octet text

Everything on the wire is a list of octets.  This module names that type, the octets the protocol
gives a meaning to, and the passage between octets and text in UTF-8.
-/

namespace SpeechClient

/-- Octets as they travel: frames, bodies and audio alike. -/
abbrev Bytes := List UInt8

def utf8 (s : String) : Bytes :=
  s.toByteArray.data.toList

namespace Bytes

def text? (b : Bytes) : Option String :=
  String.fromUTF8? ⟨b.toArray⟩

/-- The text of octets that are known to be UTF-8; octets that are not have the empty text. -/
def text (b : Bytes) : String :=
  (text? b).getD ""

def tab : UInt8 := 0x09
def cr : UInt8 := 0x0d
def lf : UInt8 := 0x0a
def space : UInt8 := 0x20
def colon : UInt8 := 0x3a

def lineBreak : Bytes := [cr, lf]

def isDigit (b : UInt8) : Bool :=
  0x30 ≤ b && b ≤ 0x39

def isLetter (b : UInt8) : Bool :=
  (0x41 ≤ b && b ≤ 0x5a) || (0x61 ≤ b && b ≤ 0x7a)

def isAlphanumeric (b : UInt8) : Bool :=
  isLetter b || isDigit b

def toLower (b : UInt8) : UInt8 :=
  if 0x41 ≤ b && b ≤ 0x5a then b + 0x20 else b

def eqIgnoringCase (a b : Bytes) : Bool :=
  a.map toLower == b.map toLower

def trimSpaces (b : Bytes) : Bytes :=
  ((b.dropWhile (· == space)).reverse.dropWhile (· == space)).reverse

def hexDigit (n : Nat) : Char :=
  if n < 10 then Char.ofNat (0x30 + n) else Char.ofNat (0x57 + n)

def hex (b : Bytes) : String :=
  String.ofList (b.flatMap fun x => [hexDigit (x.toNat / 16), hexDigit (x.toNat % 16)])

end Bytes

end SpeechClient
