import SpeechClient.Proofs.Json.Numbers
import SpeechClient.Result.Decode

/-!
# Members of one type

Each field of a result is read from the member of its name if that has the right type; a missing
member counts as one of another type.
-/

namespace SpeechClient

namespace Json

theorem elementsOf_eq (name : String) (j : Json) :
    j.elementsOf name = match j.get? name with
      | some (.array elements) => elements
      | _ => [] := by
  unfold elementsOf
  rcases j.get? name with _ | (_ | _ | _ | _ | _ | _) <;> rfl

theorem textOf_eq (name : String) (j : Json) :
    j.textOf name = match j.get? name with
      | some (.string s) => s
      | _ => "" := by
  unfold textOf
  rcases j.get? name with _ | (_ | _ | _ | _ | _ | _) <;> rfl

theorem doubleOf?_getD (name : String) (j : Json) (absent : Double) :
    (j.doubleOf? name).getD absent = match j.get? name with
      | some (.number n) => n.toDouble
      | _ => absent := by
  unfold doubleOf?
  rcases j.get? name with _ | (_ | _ | (_ | _ | _) | _ | _ | _) <;> rfl

theorem intOf_of_no_number {name : String} {j : Json}
    (other : ∀ n, j.get? name ≠ some (.number n)) : j.intOf name = 0 := by
  unfold intOf
  split
  · rfl
  next v found =>
    cases v with
    | number n => exact absurd found (other n)
    | _ => rfl

end Json

end SpeechClient
