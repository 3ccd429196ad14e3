import SpeechClient.Session.Run

/-!
# Reachable states

A state is reachable if operations lead to it from a new recognizer.  Each operation has an outside
of its own: connections may fail and listeners may react at one time and not at another.

- `Engine.New`: the states of a recognizer that has just been made, `Engine.sample` one of them.
- `Engine.Reachable`: the states of a recognizer at work.
-/

namespace SpeechClient

def Link.reliable : Link where
  refuseOpen _ := none
  refuseSend _ _ := none

namespace Engine

/-- Nothing has happened yet, save that the connection may have been opened. -/
structure New (e : Engine) : Prop where
  handle : e.handle = {}
  subscribed : e.subscribed = e.isOpen
  sources : e.sources = []
  threads : e.threads = []
  nextThread : e.nextThread = 0
  trace : ∀ listener notification, .notified listener notification ∉ e.trace

theorem create_new {link : Link} {settings : Settings} {listeners : Nat} {e : Engine}
    {seen : List Observation} (made : create link settings listeners = (.ok e, seen)) : e.New := by
  unfold create at made
  split at made
  · cases made
  · extract_lets first at made
    split at made
    · obtain ⟨rfl, _⟩ : first = e ∧ _ := by simpa using made
      constructor <;> simp [first]
    · simp only [openConnection, first, Bool.false_eq_true, if_false] at made
      split at made
      next e' opened =>
        obtain ⟨rfl, _⟩ : e' = e ∧ _ := by simpa using made
        split at opened
        · cases opened
        · cases opened
          constructor <;> simp [observe]
      · cases made

def sample : Engine where
  settings := {}
  endpoint :=
    { url := { scheme := "ws", text := "ws://localhost/", hasHost := true }
      authorization := none
      connectTimeout := .ofSeconds 10 }
  listeners := 1

theorem sample_new : sample.New := by
  constructor <;> simp [sample]

inductive Reachable : Engine → Prop where
  | new {e : Engine} : e.New → Reachable e
  | attach {e : Engine} (source : AudioSource) : Reachable e → Reachable (e.attach source).2
  | step {e : Engine} (depth : Nat) (outside : Outside) (operation : Operation) :
      Reachable e → Reachable (e.step depth outside operation).2

end Engine

end SpeechClient
