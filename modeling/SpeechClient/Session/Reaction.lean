import SpeechClient.Error
import SpeechClient.Session.State

/-!
# What callbacks do

A recognizer calls out to the application: to a listener that is told something, to a source that
is read.  The application may use the recognizer from inside such a call.  What it asks for here
neither begins a recognition nor takes the outcome of one.

- `Action`: what it asks for there, with its `Reply`.
- `Reaction`: one action after another, each chosen by the replies so far.
-/

namespace SpeechClient

/-- What the application does with a recognizer from inside one of its callbacks.  That it could
also ask for a recognition or wait for one is left to `Conduct`. -/
inductive Action where
  | close
  | cancel
  | startTimers
  | status
  deriving DecidableEq, Repr

inductive Reply where
  | done
  | failed (error : RecognitionError)
  | status (state : SessionState) (isOpen : Bool)
  deriving DecidableEq, Repr

/-- What a callback does before it returns. -/
inductive Reaction where
  | done
  | act (action : Action) (next : Reply → Reaction)

namespace Reaction

instance : Inhabited Reaction := ⟨done⟩

def ofAction (action : Action) : Reaction := act action fun _ => done

end Reaction

end SpeechClient
