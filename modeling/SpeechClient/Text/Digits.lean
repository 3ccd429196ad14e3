/-!
# Digits of any base

Numbers in a base up to sixteen, with letters in either case for the digits from ten on.
-/

namespace SpeechClient.Digits

def value? (c : Char) : Option Nat :=
  let n := c.toNat
  if 0x30 ≤ n ∧ n ≤ 0x39 then some (n - 0x30)
  else if 0x41 ≤ n ∧ n ≤ 0x46 then some (n - 0x37)
  else if 0x61 ≤ n ∧ n ≤ 0x66 then some (n - 0x57)
  else none

/-- The number that digits denote in a base.  No digits denote zero. -/
def number? (base : Nat) (digits : List Char) : Option Nat :=
  digits.foldlM (fun n c => do
    let d ← value? c
    if d < base then some (n * base + d) else none) 0

end SpeechClient.Digits
