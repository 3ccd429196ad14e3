import SpeechClient.Session.Engine

/-!
# Callbacks that ask for anything

A reaction keeps to calls that neither begin a recognition nor take the outcome of one.  Nothing
stops a callback from asking for these as well, and then a recognition can begin, or an outcome can
be taken, in the middle of another request.

- `Conduct`: what a callback does, recognitions and waits included.
- `Engine.tellAll`: how listeners are told that conduct themselves so.
-/

namespace SpeechClient

/-- What a callback does before it returns, if it may ask for anything. -/
inductive Conduct where
  | done
  | act (action : Action) (next : Reply → Conduct)
  | recognize (source : SourceId) (model : LanguageModel)
      (next : Option RecognitionError → Conduct)
  | wait (next : Except RecognitionError (List SegmentResult) → Conduct)

def Conduct.ofReaction : Reaction → Conduct
  | .done => .done
  | .act action next => .act action fun reply => ofReaction (next reply)

namespace Engine

def follow (link : Link) (notify : Notify) : Conduct → Engine → Engine
  | .done, e => e
  | .act action next, e =>
    let (reply, e) := act link notify action e
    follow link notify (next reply) e
  | .recognize source model next, e =>
    let (failure, e) := recognize link notify source model e
    follow link notify (next failure) (e.observe (.recognized source failure))
  | .wait next, e =>
    let (outcome, e) := waitResult link e
    follow link notify (next outcome) (e.observe (.waited outcome))

/-- The listeners are told as by `notifyAll`, and may ask for anything. -/
def tellAll (link : Link) (conduct : (listener : Nat) → Notification → Conduct) :
    (depth : Nat) → Notify
  | 0, n, e => (List.range e.listeners).foldl (fun e i => e.observe (.notified i n)) e
  | depth + 1, n, e =>
    (List.range e.listeners).foldl (fun e i =>
      follow link (tellAll link conduct depth) (conduct i n) (e.observe (.notified i n))) e

end Engine

end SpeechClient
