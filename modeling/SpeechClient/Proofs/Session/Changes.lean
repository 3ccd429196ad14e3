import SpeechClient.Proofs.Session.Rows

/-!
# Changes of the handle

Everything that happens to a recognizer changes its handle in a few ways only.  `Handle.Change`
lists them, each with what is known where it is made.  A move of the recognizer is such a change or
two of them, and so an operation is a row of changes.

- `Handle.Change`, `Handle.Changes`: one change, and changes in a row.
- `Engine.Move.changes`: what a move does to the handle.
- `Engine.step_changes`: what an operation does to the handle.
-/

namespace SpeechClient

namespace Handle

inductive Change : Handle → Handle → Prop where
  | begin {h : Handle} (source : SourceId) {model : LanguageModel} :
      model.usable = true → h.active = false → Change h (h.begin source model)
  | abandon (h : Handle) : Change h { h.finishRecognition with active := false }
  | takeOutcome (h : Handle) : Change h h.takeOutcome
  | reset (h : Handle) : Change h h.reset
  | transition (h : Handle) (event : Inbound) (parameters : Option Parameters) :
      Change h (h.transition event parameters).1
  | commit (h : Handle) (outcome : Commit) : Change h (h.commit outcome)
  | askCancel {h : Handle} : h.recognizing = true → Change h { h with cancelPending := true }
  | loseSession (h : Handle) : Change h { h with state := .none }
  | stream (h : Handle) (streamer : Option Streamer) : Change h { h with streamer }

abbrev Changes : Handle → Handle → Prop := Relation.ReflTransGen Change

theorem Change.changes {h h' : Handle} (change : Change h h') : Changes h h' :=
  Relation.ReflTransGen.single change

end Handle

namespace Engine

open Handle (Changes)

variable {ep : Episode} {e e' : Engine}

theorem Move.changes (move : Move ep e e') : Changes e.handle e'.handle := by
  cases move with
  | stopped =>
    rw [stopStreamer_handle]
    exact (Handle.Change.stream e.handle none).changes
  | forgotten =>
    rw [forget_handle]
    exact (Handle.Change.reset e.handle).changes
  | cancelAsked running => exact (Handle.Change.askCancel running).changes
  | recorded => exact (Handle.Change.commit e.handle _).changes
  | begun _ usable idle => exact (Handle.Change.begin _ usable idle).changes
  | abandoned => exact (Handle.Change.abandon e.handle).changes
  | @dispatched link event =>
    obtain ⟨streamer, handle⟩ := dispatch_handle link event ep.start
    rw [handle]
    exact (Handle.Change.transition _ event _).changes.tail (.stream _ streamer)
  | given =>
    rw [giveOutcome_handle]
    exact (Handle.Change.takeOutcome ep.start.handle).changes
  | sessionLost => exact (Handle.Change.loseSession ep.start.handle).changes
  | _ => exact .refl

theorem Moves.changes (moves : Moves ep e e') : Changes e.handle e'.handle :=
  moves.keep (P := fun later => Changes e.handle later.handle)
    (fun move before => before.trans move.changes) .refl

theorem step_changes (depth : Nat) (outside : Outside) (operation : Operation) (e : Engine) :
    Changes e.handle (step depth outside operation e).2.handle :=
  (step_moves depth outside operation e).changes

end Engine

end SpeechClient
