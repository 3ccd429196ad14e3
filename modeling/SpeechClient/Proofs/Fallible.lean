import Mathlib.Tactic.Common

/-!
# Computations that can fail

A computation of several steps succeeds if and only if each of its steps does, and otherwise fails
as the first step does that fails.
-/

namespace SpeechClient

variable {ε α β : Type}

theorem bind_eq_ok_iff {x : Except ε α} {next : α → Except ε β} {b : β} :
    (x >>= next) = .ok b ↔ ∃ a, x = .ok a ∧ next a = .ok b := by
  cases x with
  | error e => simp [bind, Except.bind]
  | ok a => simp [bind, Except.bind]

theorem bind_eq_error_iff {x : Except ε α} {next : α → Except ε β} {e : ε} :
    (x >>= next) = .error e ↔ x = .error e ∨ ∃ a, x = .ok a ∧ next a = .error e := by
  cases x with
  | error e' => simp [bind, Except.bind]
  | ok a => simp [bind, Except.bind]

theorem map_eq_ok_iff {x : Except ε α} {f : α → β} {b : β} :
    x.map f = .ok b ↔ ∃ a, x = .ok a ∧ f a = b := by
  cases x with
  | error e => simp [Except.map]
  | ok a => simp [Except.map]

/-- A check that throws if there is a fault. -/
theorem check_eq_ok_iff {fault : Prop} [Decidable fault] {e : ε} {next : PUnit → Except ε α}
    {a : α} : (if fault then throw e >>= next else next ⟨⟩) = .ok a ↔
      ¬fault ∧ next ⟨⟩ = .ok a := by
  by_cases found : fault
  · simp [found, throw, throwThe, MonadExceptOf.throw, bind, Except.bind]
  · simp [found]

theorem check_eq_error_iff {fault : Prop} [Decidable fault] {e e' : ε}
    {next : PUnit → Except ε α} : (if fault then throw e >>= next else next ⟨⟩) = .error e' ↔
      fault ∧ e = e' ∨ ¬fault ∧ next ⟨⟩ = .error e' := by
  by_cases found : fault
  · simp [found, throw, throwThe, MonadExceptOf.throw, bind, Except.bind]
  · simp [found]

end SpeechClient
