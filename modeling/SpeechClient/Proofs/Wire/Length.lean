import Mathlib.Data.Nat.Digits.Defs
import SpeechClient.Proofs.Wire.Scanning
import SpeechClient.Text.Numeral

/-!
# Declared lengths

A length is declared in decimal digits, and spaces may stand around them.  `DeclaresLength` says so
without reading anything; `natural?_trimSpaces_eq_some_iff` proves that the reader of numerals finds
exactly that number.
-/

namespace SpeechClient

open Wire

def IsNumeral (digits : Bytes) (n : Nat) : Prop :=
  digits ≠ [] ∧ (∀ d ∈ digits, Bytes.isDigit d = true) ∧
    n = Nat.ofDigits 10 (digits.reverse.map fun d => d.toNat - 0x30)

def DeclaresLength (value : Bytes) (n : Nat) : Prop :=
  ∃ before digits after, value = spaces before ++ digits ++ spaces after ∧ IsNumeral digits n

namespace Numeral

theorem foldlM_eq_some_iff (digits : Bytes) (start n : Nat) :
    digits.foldlM (fun m d => (digit? d).map (10 * m + ·)) start = some n ↔
      (∀ d ∈ digits, Bytes.isDigit d = true) ∧
        n = Nat.ofDigits 10 (digits.reverse.map fun d => d.toNat - 0x30) +
          10 ^ digits.length * start := by
  -- On the digits, for every start: each further digit shifts what was read before it.
  induction digits generalizing start with
  | nil =>
    simp only [List.foldlM_nil, List.reverse_nil, List.map_nil, Nat.ofDigits_nil, List.length_nil]
    constructor
    · rintro ⟨⟩
      simp
    · rintro ⟨-, rfl⟩
      simp
  | cons d digits ih =>
    by_cases isDigit : Bytes.isDigit d = true
    · have step : (digit? d).map (10 * start + ·) = some (10 * start + (d.toNat - 0x30)) := by
        simp [digit?, isDigit]
      rw [List.foldlM_cons, step]
      have value : Nat.ofDigits 10 ((d :: digits).reverse.map fun d => d.toNat - 0x30) =
          Nat.ofDigits 10 (digits.reverse.map fun d => d.toNat - 0x30) +
            10 ^ digits.length * (d.toNat - 0x30) := by
        simp [Nat.ofDigits_append]
      simp only [Option.bind_eq_bind, Option.bind_some, ih, List.forall_mem_cons, isDigit, true_and,
        value, List.length_cons]
      refine and_congr_right fun _ => ?_
      rw [show 10 ^ digits.length * (10 * start + (d.toNat - 0x30)) =
        10 ^ digits.length * (d.toNat - 0x30) + 10 ^ (digits.length + 1) * start by ring,
        Nat.add_assoc]
    · simp [digit?, isDigit]

theorem natural?_eq_some_iff {b : Bytes} {n : Nat} : natural? b = some n ↔ IsNumeral b n := by
  cases b with
  | nil => simp [natural?, IsNumeral]
  | cons d digits =>
    have fold := foldlM_eq_some_iff (d :: digits) 0 n
    rw [Nat.mul_zero, Nat.add_zero] at fold
    rw [natural?, List.isEmpty_cons, if_neg Bool.false_ne_true, fold, IsNumeral]
    exact ⟨fun both => ⟨List.cons_ne_nil _ _, both⟩, fun all => all.2⟩

end Numeral

/-! ## Spaces at the ends -/

theorem reverse_spaces (count : Nat) : (spaces count).reverse = spaces count := by
  simp [spaces]

theorem exists_trimSpaces (b : Bytes) :
    ∃ before after, b = spaces before ++ b.trimSpaces ++ spaces after := by
  obtain ⟨before, front, -⟩ := spaces_append_dropWhile b
  obtain ⟨after, back, -⟩ := spaces_append_dropWhile (b.dropWhile (· == Bytes.space)).reverse
  refine ⟨before, after, ?_⟩
  have middle : b.dropWhile (· == Bytes.space) = b.trimSpaces ++ spaces after := by
    have := congrArg List.reverse back
    rwa [List.reverse_reverse, List.reverse_append, reverse_spaces] at this
  rw [List.append_assoc, ← middle]
  exact front

theorem dropWhile_spaces_append {count : Nat} {b : Bytes} (start : b.head? ≠ some Bytes.space) :
    (spaces count ++ b).dropWhile (· == Bytes.space) = b := by
  apply dropWhile_of_boundary
  · intro x member
    simpa using (List.mem_replicate.1 member).2
  · intro x head
    simpa using fun same : x = Bytes.space => start (same ▸ head)

theorem trimSpaces_of_ends {before after : Nat} {b : Bytes} (nonempty : b ≠ [])
    (first : b.head? ≠ some Bytes.space) (last : b.reverse.head? ≠ some Bytes.space) :
    Bytes.trimSpaces (spaces before ++ b ++ spaces after) = b := by
  have start : (b ++ spaces after).head? ≠ some Bytes.space := by
    obtain ⟨x, tail, rfl⟩ := List.exists_cons_of_ne_nil nonempty
    exact first
  rw [Bytes.trimSpaces, List.append_assoc, dropWhile_spaces_append start, List.reverse_append,
    reverse_spaces, dropWhile_spaces_append last, List.reverse_reverse]

theorem space_not_mem_of_isNumeral {digits : Bytes} {n : Nat} (numeral : IsNumeral digits n) :
    Bytes.space ∉ digits :=
  fun member => absurd (numeral.2.1 _ member) (by decide)

/-- Without the spaces around it, a value is a numeral exactly if it declares that length. -/
theorem natural?_trimSpaces_eq_some_iff {value : Bytes} {n : Nat} :
    Numeral.natural? value.trimSpaces = some n ↔ DeclaresLength value n := by
  rw [Numeral.natural?_eq_some_iff]
  constructor
  · intro numeral
    obtain ⟨before, after, shape⟩ := exists_trimSpaces value
    exact ⟨before, _, after, shape, numeral⟩
  · rintro ⟨before, digits, after, rfl, numeral⟩
    have noSpace := space_not_mem_of_isNumeral numeral
    rwa [trimSpaces_of_ends numeral.1 (fun head => noSpace (List.mem_of_head? head))
      fun head => noSpace (List.mem_reverse.1 (List.mem_of_head? head))]

end SpeechClient
