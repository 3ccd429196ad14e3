import SpeechClient.Proofs.Session.Changes
import SpeechClient.Proofs.Session.Reachable
import SpeechClient.Proofs.Session.Transitions

/-!
# The coherence of the handle

The flags and slots of the handle are written on many paths, and callbacks come between a transition
and its commits.  What they say together is coherent all the same: `Handle.Coherent` survives every
single change, and so it holds in every state that can be reached.
-/

namespace SpeechClient

theorem LanguageModel.usable_iff (m : LanguageModel) : m.usable = true ↔
    (∃ uri, m.address = some uri ∧ uri ≠ "") ∨
      ∃ grammar, m.grammarText = some grammar ∧ grammar ≠ "" := by
  simp [usable, uri?, grammar?, Option.isSome_filter, Option.any_eq_true]

namespace Handle

/-- Only a running recognition can be asked to stop, and a running recognition has all that it
needs and no failure yet. -/
structure Coherent (h : Handle) : Prop where
  running_of_cancelPending : h.cancelPending = true → h.recognizing = true
  active : h.recognizing = true → h.active = true
  error : h.recognizing = true → h.error = none
  audioSource : h.recognizing = true → h.audioSource.isSome = true
  started : h.recognizing = true → h.started = true
  languageModel : h.recognizing = true → ∃ model, h.languageModel = some model ∧
    ((∃ uri, model.address = some uri ∧ uri ≠ "") ∨
      ∃ grammar, model.grammarText = some grammar ∧ grammar ≠ "")

theorem Coherent.of_not_recognizing {h : Handle} (running : h.recognizing = false)
    (pending : h.cancelPending = false) : h.Coherent := by
  constructor <;> simp [running, pending]

theorem Coherent.of_fields {h h' : Handle} (coherent : h.Coherent)
    (pending : h'.cancelPending = true → h'.recognizing = true)
    (running : h'.recognizing = true → h.recognizing = true) (active : h'.active = h.active)
    (error : h'.error = h.error) (audioSource : h'.audioSource = h.audioSource)
    (started : h'.started = h.started) (languageModel : h'.languageModel = h.languageModel) :
    h'.Coherent where
  running_of_cancelPending := pending
  active r := active ▸ coherent.active (running r)
  error r := error ▸ coherent.error (running r)
  audioSource r := audioSource ▸ coherent.audioSource (running r)
  started r := started ▸ coherent.started (running r)
  languageModel r := languageModel ▸ coherent.languageModel (running r)

theorem Coherent.not_pending_of_idle {h : Handle} (coherent : h.Coherent)
    (idle : h.active = false) : h.recognizing = false ∧ h.cancelPending = false := by
  have ended : h.recognizing = false := by
    cases running : h.recognizing with
    | false => rfl
    | true => exact absurd (coherent.active running) (by simp [idle])
  cases pending : h.cancelPending with
  | false => exact ⟨ended, rfl⟩
  | true => exact absurd (coherent.running_of_cancelPending pending) (by simp [ended])

theorem Change.coherent {h h' : Handle} (change : Change h h') (coherent : h.Coherent) :
    h'.Coherent := by
  cases change with
  | begin source usable idle =>
    exact {
      running_of_cancelPending := fun _ => rfl
      active := fun _ => rfl
      error := fun _ => rfl
      audioSource := fun _ => rfl
      started := fun _ => rfl
      languageModel := fun _ => ⟨_, rfl, (LanguageModel.usable_iff _).mp usable⟩ }
  | abandon => exact .of_not_recognizing rfl rfl
  | takeOutcome => exact .of_not_recognizing rfl rfl
  | reset => exact .of_not_recognizing rfl rfl
  | transition event parameters =>
    obtain ⟨status, pending, fields, asked⟩ := h.transition_fields event parameters
    rw [fields]
    exact coherent.of_fields (fun p => coherent.running_of_cancelPending (asked p)) id
      rfl rfl rfl rfl rfl
  | commit outcome =>
    cases outcome with
    | result result last =>
      cases last with
      | false =>
        exact coherent.of_fields coherent.running_of_cancelPending id rfl rfl rfl rfl rfl
      | true => exact .of_not_recognizing rfl rfl
    | fail error => exact .of_not_recognizing rfl rfl
    | finish discard => exact .of_not_recognizing rfl rfl
  | askCancel running =>
    exact coherent.of_fields (fun _ => running) id rfl rfl rfl rfl rfl
  | loseSession =>
    exact coherent.of_fields coherent.running_of_cancelPending id rfl rfl rfl rfl rfl
  | stream streamer =>
    exact coherent.of_fields coherent.running_of_cancelPending id rfl rfl rfl rfl rfl

theorem Changes.coherent {h h' : Handle} (changes : Changes h h') (coherent : h.Coherent) :
    h'.Coherent := by
  induction changes with
  | refl => exact coherent
  | tail _ change before => exact change.coherent before

end Handle

namespace Engine

theorem Reachable.coherent {e : Engine} (reached : e.Reachable) : e.handle.Coherent := by
  induction reached with
  | new made => exact made.handle ▸ .of_not_recognizing rfl rfl
  | attach source _ before => exact before
  | step depth outside operation _ before =>
    exact (step_changes depth outside operation _).coherent before

/-- In every reachable state the handle is coherent, and the recognition that may begin there is not
taken for canceled, although `Handle.begin` leaves that flag alone. -/
theorem reachable_handle_coherent {e : Engine} (reached : e.Reachable) :
    e.handle.Coherent ∧ ∀ source model, e.handle.active = false →
      (e.handle.begin source model).cancelPending = false := by
  have coherent := reached.coherent
  refine ⟨coherent, ?_⟩
  intro source model idle
  exact (coherent.not_pending_of_idle idle).2

/-- A recognition that was asked to stop still runs. -/
theorem canceled_handle_coherent :
    let begun := (sample.step 0 { Link.reliable with } (.recognize 0 (.ofUri "builtin:slm"))).2
    let canceled := (begun.step 0 { Link.reliable with } .cancel).2
    canceled.Reachable ∧ canceled.handle.cancelPending = true ∧ canceled.handle.Coherent := by
  intro begun canceled
  have reached : canceled.Reachable := ((Reachable.new sample_new).step _ _ _).step _ _ _
  have pending : canceled.handle.cancelPending = true := by decide +kernel
  exact ⟨reached, pending, (reachable_handle_coherent reached).1⟩

end Engine

end SpeechClient
