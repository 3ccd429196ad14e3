import SpeechClient.Text.Bytes

/-!
# Decimal numerals

Writing a number in decimal digits and reading one back, with the sign and the limit that the
reader allows.  Reading undoes writing: `natural?_ofNat`.
-/

namespace SpeechClient.Numeral

def digit (n : Nat) : UInt8 :=
  (0x30 + n).toUInt8

def digit? (b : UInt8) : Option Nat :=
  if Bytes.isDigit b then some (b.toNat - 0x30) else none

def ofNat (n : Nat) : Bytes :=
  if n < 10 then [digit n] else ofNat (n / 10) ++ [digit (n % 10)]

def natural? (b : Bytes) : Option Nat :=
  if b.isEmpty then none
  else b.foldlM (fun n d => (digit? d).map (10 * n + ·)) 0

def dropPlus : Bytes → Bytes
  | 0x2b :: rest => rest
  | b => b

def below? (limit : Nat) (b : Bytes) : Option Nat :=
  (natural? (dropPlus b)).filter (· < limit)

/-- A numeral in the range of a signed word of 64 bits, with an optional sign. -/
def int64? : Bytes → Option Int
  | 0x2d :: rest => ((natural? rest).filter (· ≤ UInt64.size / 2)).map fun n => -(n : Int)
  | b => ((natural? (dropPlus b)).filter (· < UInt64.size / 2)).map Int.ofNat

/-- The text of an integer: digits after a minus sign where it is negative. -/
def ofInt (i : Int) : String :=
  if i < 0 then String.ofList ('-' :: (ofNat i.natAbs).map fun b => Char.ofNat b.toNat)
  else Bytes.text (ofNat i.natAbs)

theorem digit?_digit {n : Nat} (h : n < 10) : digit? (digit n) = some n := by
  have : ∀ k, k < 10 → digit? (digit k) = some k := by decide
  exact this n h

theorem ofNat_ne_nil (n : Nat) : ofNat n ≠ [] := by
  rw [ofNat]
  split <;> simp

theorem foldlM_ofNat (n : Nat) :
    (ofNat n).foldlM (fun m d => (digit? d).map (10 * m + ·)) 0 = some n := by
  induction n using Nat.strongRecOn with
  | ind n ih =>
    rw [ofNat]
    split
    next h => simp [digit?_digit h]
    next h =>
      have hmod : n % 10 < 10 := Nat.mod_lt _ (by decide)
      rw [List.foldlM_append, ih (n / 10) (by omega)]
      simp [digit?_digit hmod]
      omega

/-- Reading a written number gives the number back. -/
@[simp] theorem natural?_ofNat (n : Nat) : natural? (ofNat n) = some n := by
  have h : (ofNat n).isEmpty = false := by
    simpa using ofNat_ne_nil n
  simp [natural?, h, foldlM_ofNat]

end SpeechClient.Numeral
