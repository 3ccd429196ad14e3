/-!
# Punycode

A label of any characters as letters, digits and hyphens: the ASCII characters first, and after
the last hyphen the places and values of all others, as differences in a variable-length numeral
system whose thresholds adapt.
-/

namespace SpeechClient.Punycode

def digitChar (d : Nat) : Char :=
  if d < 26 then Char.ofNat (0x61 + d) else Char.ofNat (0x30 + (d - 26))

def digitValue? (c : Char) : Option Nat :=
  let n := c.toNat
  if 0x61 ≤ n ∧ n ≤ 0x7a then some (n - 0x61)
  else if 0x41 ≤ n ∧ n ≤ 0x5a then some (n - 0x41)
  else if 0x30 ≤ n ∧ n ≤ 0x39 then some (n - 0x30 + 26)
  else none

def threshold (position bias : Nat) : Nat :=
  min 26 (max 1 (position - bias))

def reduce (delta passed : Nat) : Nat × Nat :=
  if 455 < delta then reduce (delta / 35) (passed + 36) else (delta, passed)
termination_by delta
decreasing_by omega

/-- The bias after a difference, when `count` characters are known. -/
def adapt (delta count : Nat) (first : Bool) : Nat :=
  let delta := if first then delta / 700 else delta / 2
  let (small, passed) := reduce (delta + delta / count) 0
  passed + 36 * small / (small + 38)

def encodeDigits (bias position delta : Nat) : List Char :=
  let t := threshold position bias
  if delta < t then [digitChar delta]
  else
    digitChar (t + (delta - t) % (36 - t)) ::
      encodeDigits bias (position + 36) ((delta - t) / (36 - t))
termination_by delta
decreasing_by
  have h : 1 ≤ threshold position bias := by unfold threshold; omega
  have := Nat.div_le_self (delta - threshold position bias) (36 - threshold position bias)
  omega

structure Progress where
  written : List Char
  delta : Nat
  bias : Nat
  known : Nat

def pass (basic value : Nat) (p : Progress) (c : Char) : Progress :=
  if c.toNat < value then { p with delta := p.delta + 1 }
  else if c.toNat = value then
    { written := p.written ++ encodeDigits p.bias 36 p.delta
      delta := 0
      bias := adapt p.delta (p.known + 1) (p.known == basic)
      known := p.known + 1 }
  else p

/-- Passes for the values in ascending order; `next` is the first value not yet passed. -/
def passes (label : List Char) (basic : Nat) : List Nat → Nat → Progress → Progress
  | [], _, p => p
  | value :: rest, next, p =>
    let p := { p with delta := p.delta + (value - next) * (p.known + 1) }
    let p := label.foldl (pass basic value) p
    passes label basic rest (value + 1) { p with delta := p.delta + 1 }

def encode (label : List Char) : List Char :=
  let basic := label.filter fun c => c.toNat < 0x80
  let values := (((label.filter fun c => 0x80 ≤ c.toNat).map Char.toNat).mergeSort).eraseDups
  let p := passes label basic.length values 0x80 ⟨[], 0, 72, basic.length⟩
  basic ++ (if basic.isEmpty then [] else ['-']) ++ p.written

/-- The numbers that reading may pass through are words of 32 bits. -/
def word? (n : Nat) : Option Nat :=
  if n < UInt32.size then some n else none

/-- A place advanced by the difference that digits denote, and the characters after the digits. -/
def decodeDigits (bias : Nat) : List Char → Nat → Nat → Nat → Option (Nat × List Char)
  | [], _, _, _ => none
  | c :: rest, position, weight, place => do
    let d ← digitValue? c
    let place ← word? (place + d * weight)
    let t := threshold position bias
    if d < t then return (place, rest)
    let weight ← word? (weight * (36 - t))
    decodeDigits bias rest (position + 36) weight place

/-- The characters that differences put into a label.  Each difference takes at least one
character, so the length of the input is fuel enough. -/
def insertions (out : List Char) (input : List Char) (value place bias : Nat) (first : Bool) :
    Nat → Option (List Char)
  | 0 => if input.isEmpty then some out else none
  | fuel + 1 =>
    if input.isEmpty then some out
    else do
      let (total, rest) ← decodeDigits bias input 36 1 place
      let delta := total - place
      let count := out.length + 1
      let value := value + total / count
      let place := total % count
      if value < 0x110000 ∧ ¬(0xd800 ≤ value ∧ value ≤ 0xdfff) then
        insertions (out.take place ++ [Char.ofNat value] ++ out.drop place) rest value (place + 1)
          (adapt delta count first) false fuel
      else none

def decode (input : List Char) : Option (List Char) :=
  let reversed := input.reverse
  let extended := (reversed.takeWhile (· ≠ '-')).reverse
  let basic := (reversed.drop (extended.length + 1)).reverse
  -- A hyphen that nothing stands before parts nothing, so it is no digit either.
  if input.head? = some '-' ∧ basic.isEmpty then none
  else insertions basic extended 0x80 0 72 true (extended.length + 1)

end SpeechClient.Punycode
