import SpeechClient.Text.Bytes

/-!
# Percent-encoding

An octet that may not stand for itself is written as a percent sign and two hexadecimal digits.
Which octets those are depends on the part of the address.
-/

namespace SpeechClient.Percent

/-- The octets that never stand for themselves: controls, and all beyond ASCII. -/
def control (b : UInt8) : Bool :=
  b < 0x20 || 0x7f ≤ b

def fragment (b : UInt8) : Bool :=
  control b || (utf8 " \"<>\x60").contains b

def query (b : UInt8) : Bool :=
  control b || (utf8 " \"#<>").contains b

def specialQuery (b : UInt8) : Bool :=
  query b || b == 0x27

def path (b : UInt8) : Bool :=
  fragment b || (utf8 "#?\x7b\x7d").contains b

def userInfo (b : UInt8) : Bool :=
  path b || (utf8 "/:;=@[\\]^|").contains b

def hexDigit (n : Nat) : Char :=
  if n < 10 then Char.ofNat (0x30 + n) else Char.ofNat (0x37 + n)

def encodeByte (b : UInt8) : List Char :=
  ['%', hexDigit (b.toNat / 16), hexDigit (b.toNat % 16)]

def encode (set : UInt8 → Bool) (cs : List Char) : List Char :=
  (utf8 (String.ofList cs)).flatMap fun b =>
    if set b then encodeByte b else [Char.ofNat b.toNat]

def digitValue? (b : UInt8) : Option UInt8 :=
  if 0x30 ≤ b && b ≤ 0x39 then some (b - 0x30)
  else if 0x41 ≤ b && b ≤ 0x46 then some (b - 0x37)
  else if 0x61 ≤ b && b ≤ 0x66 then some (b - 0x57)
  else none

/-- The octets that a text stands for.  A percent sign without two digits stands for itself. -/
def decode : Bytes → Bytes
  | 0x25 :: a :: b :: rest =>
    match digitValue? a, digitValue? b with
    | some x, some y => (x * 16 + y) :: decode rest
    | _, _ => 0x25 :: decode (a :: b :: rest)
  | b :: rest => b :: decode rest
  | [] => []

end SpeechClient.Percent
