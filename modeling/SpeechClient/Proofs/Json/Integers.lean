import SpeechClient.Proofs.Json.Members
import SpeechClient.Proofs.Number.Truncation

/-!
# Integers of 32 bits

Where an integer of 32 bits is wanted, a number loses its fraction and is held to 64 bits; of what
is left only the lowest 32 bits are kept.  So a number beyond 32 bits does not become the nearest
integer that they hold, except by chance.

- `JsonNumber.value`: the number itself.
- `lowWord`: what the lowest 32 bits of an integer say.
- `Json.intOf_of_stored`: what is read from a number.
- `lowWord_held_eq_iff`: when that is the nearest integer.
-/

namespace SpeechClient

def JsonNumber.value : JsonNumber → ℚ
  | .natural n => n
  | .negative i => i
  | .double x => x.value

/-- The integer that the lowest 32 bits denote. -/
def lowWord (i : ℤ) : ℤ :=
  i.bmod (2 ^ 32)

theorem held_of_word {i : ℤ} (low : -2 ^ 63 ≤ i) (high : i < 2 ^ 63) : held 64 i = i := by
  unfold held
  omega

theorem lowWord_held_of_word {i : ℤ} (low : -2 ^ 31 ≤ i) (high : i < 2 ^ 31) :
    lowWord (held 64 i) = i := by
  rw [held_of_word (by omega) (by omega), lowWord]
  exact Int.bmod_eq_of_le (by omega) (by omega)

/-- Beyond 32 bits the nearest integer is read only from an integer of 64 bits whose lowest 32 bits
happen to be those of the bound. -/
theorem lowWord_held_eq_iff (i : ℤ) : lowWord (held 64 i) = held 32 i ↔
    -2 ^ 31 ≤ i ∧ i < 2 ^ 31 ∨
      2 ^ 31 ≤ i ∧ i < 2 ^ 63 ∧ i % 2 ^ 32 = 2 ^ 31 - 1 ∨
      -2 ^ 63 ≤ i ∧ i < -2 ^ 31 ∧ i % 2 ^ 32 = 2 ^ 31 := by
  unfold lowWord held Int.bmod
  dsimp only
  split <;> omega

namespace Json

variable {j : Json} {name : String} {n : JsonNumber}

theorem Stored.of_mem_elementsOf (stored : j.Stored) {e : Json} (member : e ∈ j.elementsOf name) :
    e.Stored :=
  fun n inside => stored n (holds_of_mem_elementsOf member inside)

theorem Stored.of_get? (stored : j.Stored) (number : j.get? name = some (.number n)) : n.Stored :=
  stored n (holds_of_get? number .here)

/-- A number is read without its fraction, as far as 64 bits hold it, and of that the lowest 32 bits
are kept. -/
theorem intOf_of_stored (stored : j.Stored) (number : j.get? name = some (.number n)) :
    j.intOf name = Int32.ofInt (held 64 (towardZero n.value)) := by
  have half : UInt64.size / 2 = 2 ^ 63 := by decide
  have stored := stored.of_get? number
  unfold intOf
  rw [number]
  cases n with
  | natural n =>
    have word : n < 2 ^ 64 := stored
    have whole : towardZero (JsonNumber.natural n).value = n := towardZero_natCast n
    rw [whole]
    by_cases small : n < 2 ^ 63
    · rw [held_of_word (by omega) (by omega)]
      simp only [asInt?, half, if_pos small]
      rfl
    · -- the nearest double is not below the bound either, so both are held to the same integer
      have large : 2 ^ 63 ≤ n := Nat.not_lt.1 small
      have double : 2 ^ 63 ≤ towardZero (Double.ofNat n).value := by
        rw [← towardZero_intCast (2 ^ 63)]
        exact towardZero_mono (Double.le_value_ofNat large word)
      have truncated : (Double.ofNat n).truncate = held 64 (towardZero (Double.ofNat n).value) :=
        Double.truncate_eq_held (Double.isNaN_ofRatio ..)
      have same : held 64 (towardZero (Double.ofNat n).value) = held 64 n := by
        unfold held
        omega
      simp only [asInt?, half, if_neg small]
      rw [← same, ← truncated]
      rfl
  | negative i =>
    obtain ⟨low, high⟩ : -2 ^ 63 ≤ i ∧ i < 0 := stored
    have whole : towardZero (JsonNumber.negative i).value = i := towardZero_intCast i
    rw [whole, held_of_word low (by omega)]
    rfl
  | double x =>
    have truncated := Double.truncate_eq_held (x := x) stored
    simp [asInt?, asDouble?, truncated, JsonNumber.value]

end Json

end SpeechClient
