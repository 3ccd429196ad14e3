import Mathlib.Data.UInt
import Mathlib.Tactic.Common
import SpeechClient.Number.Double

/-!
# The order of binary64 numbers

Whatever is not a NaN has a place in one line, so of two such numbers one is at most the other.  A
NaN has none: each comparison with it fails, and so does the opposite one.

- `Double.le_eq_false_iff`, `Double.lt_eq_false_iff`: what a failed comparison says.
- `Double.isNaN_ofRatio`: rounding a quotient never gives a NaN.
-/

namespace SpeechClient.Double

variable {x y z : Double}

theorem lt_iff : x.lt y = true ↔ x.isNaN = false ∧ y.isNaN = false ∧ x.rank < y.rank := by
  simp [lt, and_assoc]

theorem le_iff : x.le y = true ↔ x.isNaN = false ∧ y.isNaN = false ∧ x.rank ≤ y.rank := by
  simp [le, and_assoc]

/-- A number is not at most another: it is greater, or one of the two is no number. -/
theorem le_eq_false_iff :
    x.le y = false ↔ x.isNaN = true ∨ y.isNaN = true ∨ y.lt x = true := by
  rw [← Bool.not_eq_true, le_iff, lt_iff]
  cases x.isNaN <;> cases y.isNaN <;> simp

theorem lt_eq_false_iff :
    x.lt y = false ↔ x.isNaN = true ∨ y.isNaN = true ∨ y.le x = true := by
  rw [← Bool.not_eq_true, le_iff, lt_iff]
  cases x.isNaN <;> cases y.isNaN <;> simp

theorem le_trans (first : x.le y = true) (second : y.le z = true) : x.le z = true := by
  rw [le_iff] at first second ⊢
  exact ⟨first.1, second.2.1, first.2.2.trans second.2.2⟩

/-! ## Numbers that are made -/

theorem toNat_ofMagnitude (negative : Bool) {m : Nat} (bound : m < signBit) :
    (ofMagnitude negative m).bits.toNat = (if negative then signBit else 0) + m := by
  rw [ofMagnitude, Nat.mod_eq_of_lt bound]
  refine Nat.mod_eq_of_lt ?_
  cases negative <;> simp [signBit] at bound ⊢ <;> omega

theorem magnitude_ofMagnitude (negative : Bool) {m : Nat} (bound : m < signBit) :
    (ofMagnitude negative m).magnitude = m := by
  rw [magnitude, toNat_ofMagnitude negative bound]
  cases negative <;> simp [Nat.mod_eq_of_lt bound]

theorem negative_ofMagnitude (negative : Bool) {m : Nat} (bound : m < signBit) :
    (ofMagnitude negative m).negative = negative := by
  rw [Double.negative, toNat_ofMagnitude negative bound]
  cases negative <;> simp [bound]

theorem isNaN_ofMagnitude (negative : Bool) {m : Nat} (bound : m ≤ infinityMagnitude) :
    (ofMagnitude negative m).isNaN = false := by
  have small : m < signBit := Nat.lt_of_le_of_lt bound (by decide)
  simp [isNaN, magnitude_ofMagnitude negative small, bound]

theorem isNaN_ofRatio (negative : Bool) (num den : Nat) :
    (ofRatio negative num den).isNaN = false := by
  unfold ofRatio
  split
  · exact isNaN_ofMagnitude negative (Nat.zero_le _)
  · exact isNaN_ofMagnitude negative (Nat.min_le_right ..)

theorem isNaN_neg (number : x.isNaN = false) : x.neg.isNaN = false :=
  isNaN_ofMagnitude _ (by simpa [isNaN] using number)

end SpeechClient.Double
