import SpeechClient.Text.Bytes

/-!
# Octets that may not be text

Octets shown as text where they are UTF-8; each stretch that breaks off inside a character, and
each octet that starts none, is shown as one replacement character.
-/

namespace SpeechClient.Lossy

def continuation : UInt8 × UInt8 := (0x80, 0xbf)

/-- For the first octet of a character the ranges of the octets that have to follow it. -/
def following? (b : UInt8) : Option (List (UInt8 × UInt8)) :=
  if b < 0x80 then some []
  else if b < 0xc2 then none
  else if b < 0xe0 then some [continuation]
  else if b = 0xe0 then some [(0xa0, 0xbf), continuation]
  else if b = 0xed then some [(0x80, 0x9f), continuation]
  else if b < 0xf0 then some [continuation, continuation]
  else if b = 0xf0 then some [(0x90, 0xbf), continuation, continuation]
  else if b < 0xf4 then some [continuation, continuation, continuation]
  else if b = 0xf4 then some [(0x80, 0x8f), continuation, continuation]
  else none

def matching : List (UInt8 × UInt8) → Bytes → Nat
  | (low, high) :: ranges, b :: rest =>
    if low ≤ b && b ≤ high then matching ranges rest + 1 else 0
  | _, _ => 0

def replacement : Char := '\ufffd'

def chars : Bytes → List Char
  | [] => []
  | b :: rest =>
    match following? b with
    | none => replacement :: chars rest
    | some ranges =>
      let n := matching ranges rest
      (if n = ranges.length then (Bytes.text (b :: rest.take n)).toList else [replacement]) ++
        chars (rest.drop n)
termination_by b => b.length
decreasing_by all_goals simp; try omega

def text (b : Bytes) : String :=
  String.ofList (chars b)

end SpeechClient.Lossy
