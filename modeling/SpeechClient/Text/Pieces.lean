/-!
# Pieces between separators

A list cut at the elements that part it.
-/

namespace SpeechClient

def pieces {α : Type} (parts : α → Bool) (l : List α) : List (List α) :=
  l.foldr (fun a done =>
    if parts a then [] :: done
    else
      match done with
      | piece :: rest => (a :: piece) :: rest
      | [] => [[a]]) [[]]

end SpeechClient
