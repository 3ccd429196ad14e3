import SpeechClient.Proofs.Session.Guard
import SpeechClient.Session.Reentry

/-!
# Recognitions that callbacks ask for

Listeners hear that a recognition could not begin while it still counts as begun, and only after
that the guard goes.  So a callback that asks for a recognition meanwhile is refused though none was
accepted; and if it closes first its own recognition is accepted, and loses the guard that it set.

- `Engine.tellAll_ofReaction`: callbacks that keep to reactions are told as ever.
- `Engine.follow_recognize_of_unsent`: what a callback is answered meanwhile.
- `Engine.recognize_unguarded_of_any`: a request that failed leaves no guard, whatever callbacks do.
-/

namespace SpeechClient

namespace Engine

variable {link : Link} {notify : Notify} {source : SourceId} {model : LanguageModel} {e : Engine}

theorem follow_ofReaction (link : Link) (notify : Notify) (reaction : Reaction) (e : Engine) :
    follow link notify (.ofReaction reaction) e = react link notify reaction e := by
  induction reaction generalizing e with
  | done => rfl
  | act action next same => exact same _ _

theorem tellAll_ofReaction (outside : Outside) (depth : Nat) :
    tellAll outside.toLink (fun i n => .ofReaction (outside.reaction i n)) depth =
      notifyAll outside depth := by
  induction depth with
  | zero => rfl
  | succ depth same =>
    funext n e
    simp only [tellAll, notifyAll, same, follow_ofReaction]

/-- Listeners hear that a recognition could not begin while the guard still stands: one that asks
for a recognition then is refused, and nothing happens. -/
theorem follow_recognize_of_unsent {another : SourceId} {other : LanguageModel}
    (usable : other.usable = true) (o : Observation) (next : Option RecognitionError → Conduct) :
    let told := (sendFirst link (e.onHandle (·.begin source model))).2.observe o
    follow link notify (.recognize another other next) told =
      follow link notify (next (some .activeRecognition))
        (told.observe (.recognized another (some .activeRecognition))) := by
  intro told
  have face := sendFirst_face link (e.onHandle (·.begin source model))
  have active : told.handle.active = true := congrArg (·.handle.active) face
  simp only [follow, recognize_of_active link notify another usable active]

/-- A request that was not turned away and failed leaves no guard, whatever callbacks did while they
heard of it: also a recognition that they were given has none then. -/
theorem recognize_unguarded_of_any (link : Link) (notify : Notify) {refusal : Refusal}
    (failed : (recognize link notify source model e).1 = some refusal.error) :
    (recognize link notify source model e).2.handle.active = false := by
  cases usable : model.usable with
  | false =>
    rw [recognize_of_unusable link notify source e usable] at failed
    cases (congrArg RecognitionError.external (Option.some.inj failed)).trans refusal.external
  | true =>
    cases active : e.handle.active with
    | true =>
      rw [recognize_of_active link notify source usable active] at failed
      cases (congrArg RecognitionError.external (Option.some.inj failed)).trans refusal.external
    | false =>
      rw [recognize_of_idle link notify source usable active] at failed ⊢
      generalize sendFirst link (e.onHandle (·.begin source model)) = sent at failed ⊢
      obtain ⟨failure, reached⟩ := sent
      cases failure with
      | none => cases failed
      | some error => rfl

/-- The connection is refused, and a listener that asks for a recognition when it hears of that is
refused as well though none was accepted.  The connection does not take the request to start a
recognition, and a listener closes it when it hears of that and is given a recognition: nothing
happens to that any more, and still the next request is accepted. -/
theorem recognize_refused_unaccepted :
    let model := LanguageModel.ofUri "builtin:slm"
    let asking := Conduct.recognize 1 model fun _ => .done
    let refusing : Link :=
      { refuseOpen := fun _ => some (.ofReason "refused"), refuseSend := fun _ _ => none }
    let unmade := recognize refusing (tellAll refusing (fun _ _ => asking) 1) 0 model sample
    let deaf : Link :=
      { refuseOpen := fun _ => none
        refuseSend := fun _ frame =>
          if frame.method? = some .startRecognition then some (.ofReason "gone") else none }
    let message := Operation.message
      (utf8 "ASR 2.4 RECOGNITION_RESULT\r\nResult-Status: NO_SPEECH\r\n\r\n")
    let earlier := [Operation.recognize 0 model, message, .wait].map (({ deaf with } : Outside), ·)
    let telling := tellAll deaf (fun _ _ => .act .close fun _ => asking) 1
    let unstarted := recognize deaf telling 0 model (run 0 earlier sample).2
    (unmade.1 = some (.connectionFailure "refused") ∧
      unmade.2.trace = [.opened sample.endpoint,
        .notified 0 (.error (.connectionFailure "refused")),
        .recognized 1 (some .activeRecognition)]) ∧
    unstarted.1 = some (.connectionFailure "gone") ∧
      unstarted.2.trace.getLast? = some (.recognized 1 none) ∧
      (recognize deaf telling 2 model unstarted.2).1 = none := by
  decide +kernel

end Engine

end SpeechClient
