/-!
# Closed vocabularies

A type whose members each have one name, and the search for the member a name stands for.
-/

namespace SpeechClient

/-- A type with finitely many members, listed, each with a name. -/
class Vocabulary (α : Type) where
  all : List α
  name : α → String

namespace Vocabulary

def ofName? (α : Type) [Vocabulary α] (s : String) : Option α :=
  (all : List α).find? fun a => name a == s

theorem name_of_ofName? {α : Type} [Vocabulary α] {s : String} {a : α}
    (h : ofName? α s = some a) : name a = s := by
  simpa using List.find?_some h

end Vocabulary

end SpeechClient
