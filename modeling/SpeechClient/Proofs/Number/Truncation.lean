import Mathlib.Algebra.Order.Floor.Ring
import Mathlib.Data.Rat.Floor
import SpeechClient.Proofs.Number.Order

/-!
# Numbers without their fraction

Every binary64 number that is not a NaN denotes a rational number, an infinity the power of two
above all finite numbers.  Truncation drops the fraction of this rational and holds the rest to a
word of 64 bits.

- `towardZero`, `held`: a number without its fraction, and the nearest integer that a word holds.
- `Double.value`: the rational that a number denotes.
- `Double.truncate_eq_held`: truncation in these terms.
-/

namespace SpeechClient

def towardZero (q : ℚ) : ℤ :=
  if q < 0 then ⌈q⌉ else ⌊q⌋

/-- Of the integers that a signed word of so many bits holds, the nearest one. -/
def held (bits : ℕ) (i : ℤ) : ℤ :=
  max (-2 ^ (bits - 1)) (min i (2 ^ (bits - 1) - 1))

@[simp] theorem towardZero_intCast (i : ℤ) : towardZero i = i := by
  simp [towardZero]

theorem towardZero_natCast (n : ℕ) : towardZero n = n :=
  towardZero_intCast n

theorem towardZero_of_nonneg {q : ℚ} (nonneg : 0 ≤ q) : towardZero q = ⌊q⌋ :=
  if_neg nonneg.not_gt

theorem towardZero_neg {q : ℚ} (nonneg : 0 ≤ q) : towardZero (-q) = -⌊q⌋ := by
  unfold towardZero
  split
  · exact Int.ceil_neg
  next least =>
    have zero : q = 0 := by linarith
    simp [zero]

theorem towardZero_mono {q r : ℚ} (le : q ≤ r) : towardZero q ≤ towardZero r := by
  unfold towardZero
  by_cases negative : r < 0
  · rw [if_pos (le.trans_lt negative), if_pos negative]
    exact Int.ceil_mono le
  · rw [if_neg negative]
    have nonneg : 0 ≤ ⌊r⌋ := Int.floor_nonneg.2 (not_lt.1 negative)
    split
    next below =>
      have nonpos : ⌈q⌉ ≤ 0 := Int.ceil_le.2 (by simpa using below.le)
      exact nonpos.trans nonneg
    next => exact Int.floor_mono le

namespace Double

/-- The number itself: its significand times its power of two, with its sign. -/
def value (x : Double) : ℚ :=
  (if x.negative then -1 else 1) * (x.significand * 2 ^ x.exponent)

theorem two_zpow (e : ℤ) : (2 : ℚ) ^ e = 2 ^ e.toNat / 2 ^ (-e).toNat := by
  obtain ⟨n, rfl | rfl⟩ := e.eq_nat_or_neg <;> simp

theorem floor_significand (x : Double) : ⌊(x.significand * 2 ^ x.exponent : ℚ)⌋ =
    (x.significand * Nat.pow 2 x.exponent.toNat / Nat.pow 2 (-x.exponent).toNat : ℕ) := by
  rw [two_zpow, ← mul_div_assoc]
  have quotient := Rat.floor_natCast_div_natCast (x.significand * 2 ^ x.exponent.toNat)
    (2 ^ (-x.exponent).toNat)
  push_cast at quotient ⊢
  exact quotient

/-- Truncation drops the fraction, and what does not fit a word of 64 bits becomes the nearest
integer that does. -/
theorem truncate_eq_held {x : Double} (number : x.isNaN = false) :
    x.truncate = held 64 (towardZero x.value) := by
  have nonneg : 0 ≤ (x.significand * 2 ^ x.exponent : ℚ) :=
    mul_nonneg (Nat.cast_nonneg _) (zpow_nonneg zero_le_two _)
  have floor := x.floor_significand
  have whole : 0 ≤ ⌊(x.significand * 2 ^ x.exponent : ℚ)⌋ := Int.floor_nonneg.2 nonneg
  have signBit : (Double.signBit : ℤ) = 2 ^ 63 := by norm_num [Double.signBit]
  unfold truncate value held
  rw [if_neg (by simp [number])]
  dsimp only
  rw [← floor, signBit]
  split
  · rw [neg_one_mul, towardZero_neg nonneg]
    omega
  · rw [one_mul, towardZero_of_nonneg nonneg]
    omega

/-! ## Large integers -/

theorem div_le_roundEven (num den : ℕ) : num / den ≤ roundEven num den := by
  unfold roundEven
  dsimp only
  split <;> omega

theorem roundEven_le_div (num den : ℕ) : roundEven num den ≤ num / den + 1 := by
  unfold roundEven
  dsimp only
  split <;> omega

/-- An integer of sixty-four binary digits is rounded to fifty-three of them. -/
theorem ofNat_of_word {n : ℕ} (large : 2 ^ 63 ≤ n) (word : n < 2 ^ 64) :
    ∃ m, 1086 * hiddenBit ≤ m ∧ m < signBit ∧ ofNat n = ofMagnitude false m := by
  have positive : n ≠ 0 := by omega
  have log : n.log2 = 63 := (Nat.log2_eq_iff positive).2 ⟨large, word⟩
  have one : Nat.log2 1 = 0 := by decide
  have full : ¬n < 2048 * hiddenBit := by
    rw [hiddenBit]
    omega
  have unit : unitExponent n 1 = 11 := by simp [unitExponent, scaled, log, one, full]
  have low := div_le_roundEven n 2048
  have high := roundEven_le_div n 2048
  have finite : 1085 * hiddenBit + roundEven n 2048 ≤ infinityMagnitude := by
    rw [infinityMagnitude, hiddenBit]
    omega
  refine ⟨1085 * hiddenBit + roundEven n 2048, ?_, finite.trans_lt (by decide), ?_⟩
  · rw [hiddenBit]
    omega
  · simp [ofNat, ofRatio, positive, unit, scaled, Nat.min_eq_left finite]

/-- An integer that only an unsigned word holds is rounded to one that no signed word holds. -/
theorem le_value_ofNat {n : ℕ} (large : 2 ^ 63 ≤ n) (word : n < 2 ^ 64) :
    ((2 ^ 63 : ℤ) : ℚ) ≤ (ofNat n).value := by
  obtain ⟨m, least, bound, rounded⟩ := ofNat_of_word large word
  have positive : (ofNat n).negative = false := by
    rw [rounded, negative_ofMagnitude false bound]
  have magnitude : (ofNat n).magnitude = m := by
    rw [rounded, magnitude_ofMagnitude false bound]
  have normal : ¬m < hiddenBit := by omega
  have significand : 2 ^ 52 ≤ (ofNat n).significand := by
    unfold Double.significand
    rw [magnitude, if_neg normal, hiddenBit]
    omega
  have exponent : 11 ≤ (ofNat n).exponent := by
    unfold Double.exponent
    rw [magnitude, if_neg normal]
    rw [hiddenBit] at least ⊢
    omega
  calc ((2 ^ 63 : ℤ) : ℚ) = 2 ^ 52 * 2 ^ (11 : ℤ) := by norm_num
    _ ≤ (ofNat n).significand * 2 ^ (ofNat n).exponent := by
      refine mul_le_mul (mod_cast significand) ?_ (by norm_num) (Nat.cast_nonneg _)
      exact zpow_le_zpow_right₀ one_le_two exponent
    _ = (ofNat n).value := by rw [value, positive]; simp

end Double

end SpeechClient
