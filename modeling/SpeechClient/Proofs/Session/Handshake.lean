import SpeechClient.Proofs.Session.Transitions

/-!
# The handshake

A recognition starts with a few requests, each sent when the one before has succeeded: the session
is created, the parameters are set, the recognition is started, and then the audio is streamed.
What an event sends or streams is the next step of this, and nothing else is.

- `Inbound.granted?`: the request that a reply says has succeeded.
- `Inbound.asksOn`, `goesOn`: the replies that the handshake goes on with.
- `Handle.Brings`: what can happen after an event.
-/

namespace SpeechClient

open Wire

/-! ## Commands of requests -/

namespace Wire.Frame

theorem request_method? (method : Method) : (request method).method? = some method := by
  cases method <;> decide +kernel

@[simp]
theorem setHeader_method? (f : Frame) (key value : Bytes) :
    (f.setHeader key value).method? = f.method? := rfl

@[simp]
theorem setBody_method? (f : Frame) (body : Bytes) : (f.setBody body).method? = f.method? := rfl

end Wire.Frame

theorem LanguageModel.apply_method? {model : LanguageModel} {f f' : Frame}
    (applied : model.apply f = .ok f') : f'.method? = f.method? := by
  unfold apply at applied
  split at applied
  · cases applied
    simp
  · cases applied
    simp
  · cases applied

namespace Request

theorem createSession_method? (userAgent : String) :
    (createSession userAgent).method? = some .createSession :=
  Frame.request_method? .createSession

theorem setParameters_method? (p : Parameters) :
    (setParameters p).method? = some .setParameters := by
  have kept (headers : List (String × String)) (f : Frame) :
      (headers.foldl (fun f header => f.setHeader (utf8 header.1) (utf8 header.2)) f).method? =
        f.method? := by
    induction headers generalizing f with
    | nil => rfl
    | cons header rest after => exact after _
  exact (kept p.headers _).trans (Frame.request_method? .setParameters)

theorem startRecognition_method? {model : Option LanguageModel} {f : Frame}
    (made : startRecognition model = .ok f) : f.method? = some .startRecognition := by
  unfold startRecognition at made
  split at made
  · exact (LanguageModel.apply_method? made).trans (Frame.request_method? .startRecognition)
  · cases made

theorem cancelRecognition_method? : cancelRecognition.method? = some .cancelRecognition :=
  Frame.request_method? .cancelRecognition

theorem startInputTimers_method? : startInputTimers.method? = some .startInputTimers :=
  Frame.request_method? .startInputTimers

theorem releaseSession_method? : releaseSession.method? = some .releaseSession :=
  Frame.request_method? .releaseSession

end Request

/-! ## Replies -/

namespace Inbound

def granted? : Inbound → Option Method
  | response method verdict _ _ _ =>
    if Verdict.ofOctets? verdict = some .success then Method.ofOctets? method else none
  | _ => none

def asksOn (event : Inbound) : Bool :=
  event.granted? = some .createSession || event.granted? = some .setParameters

def starts (event : Inbound) : Bool :=
  event.granted? = some .startRecognition

def goesOn (event : Inbound) : Bool :=
  event.asksOn || event.starts

end Inbound

namespace Handle

/-- What can happen after an event. -/
inductive Brings (h : Handle) (event : Inbound) : Effect → Prop where
  | told (n : Notification) : Brings h event (.notify n)
  | recorded (outcome : Commit) : Brings h event (.commit outcome)
  | parameters {frame : Frame} (p : Parameters) : event.granted? = some .createSession →
      frame = Request.setParameters p → Brings h event (.send frame)
  | start {frame : Frame} : event.asksOn = true →
      Request.startRecognition h.languageModel = .ok frame → Brings h event (.send frame)
  | stream {source : SourceId} : event.starts = true → h.audioSource = some source →
      Brings h event (.startStreaming source)

variable {h : Handle} {event : Inbound}

theorem adoptionEffects_brings {status : Option SessionState} {effect : Effect}
    (member : effect ∈ adoptionEffects status) : Brings h event effect := by
  unfold adoptionEffects at member
  split at member
  · rw [List.mem_singleton.mp member]
    exact .told .listening
  · cases member

theorem startEffect_brings (asksOn : event.asksOn = true) : Brings h event h.startEffect := by
  unfold startEffect
  split
  next frame made => exact .start asksOn made
  · exact .recorded _

theorem onSuccess_brings {method : Option Method} {status : Option SessionState}
    {parameters : Option Parameters} (granted : event.granted? = method) {effect : Effect}
    (member : effect ∈ (h.onSuccess method status parameters).2) : Brings h event effect := by
  obtain ⟨s, adopted⟩ := adopt_fields h status
  have starting : (h.adopt status).startEffect = h.startEffect := by
    simp only [startEffect, adopted]
  have source : (h.adopt status).audioSource = h.audioSource := by rw [adopted]
  have streaming (member : effect ∈ h.audioSource.toList.map Effect.startStreaming)
      (started : event.starts = true) : Brings h event effect := by
    obtain ⟨source, known, rfl⟩ := List.mem_map.mp member
    exact .stream started (Option.mem_toList.mp known)
  simp only [onSuccess, List.mem_append] at member
  cases member with
  | inl told => exact adoptionEffects_brings told
  | inr next =>
    split at next
    · have asksOn : event.asksOn = true := by simp [Inbound.asksOn, granted]
      have created : (if (h.adopt status).state = .none then
          { h.adopt status with state := .idle } else h.adopt status).startEffect =
          h.startEffect := by
        rw [← starting]
        split <;> rfl
      cases parameters with
      | some p =>
        rw [List.mem_singleton.mp next]
        exact .parameters p granted rfl
      | none =>
        rw [List.mem_singleton.mp next, created]
        exact startEffect_brings asksOn
    · have asksOn : event.asksOn = true := by simp [Inbound.asksOn, granted]
      rw [List.mem_singleton.mp next, starting]
      exact startEffect_brings asksOn
    · have started : event.starts = true := by simp [Inbound.starts, granted]
      unfold onRecognitionStarted at next
      rw [source] at next
      cases status with
      | some s => exact streaming next started
      | none =>
        cases List.mem_cons.mp next with
        | inl told =>
          rw [told]
          exact .told .listening
        | inr next => exact streaming next started
    · cases next

theorem onCancelReply_brings {verdict : Option Verdict} {status : Option SessionState}
    {failure : RecognitionError} {effect : Effect}
    (member : effect ∈ (h.onCancelReply verdict status failure).2) : Brings h event effect := by
  have confirmed (member : effect ∈ adoptionEffects status ++ [.commit (.finish true)]) :
      Brings h event effect := by
    cases List.mem_append.mp member with
    | inl told => exact adoptionEffects_brings told
    | inr ended =>
      rw [List.mem_singleton.mp ended]
      exact .recorded _
  unfold onCancelReply at member
  split at member
  · cases member
  · dsimp only at member
    split at member
    · exact confirmed member
    · exact confirmed member
    · rw [List.mem_singleton.mp member]
      exact .recorded _

theorem onResult_brings {idle : Bool} {outcome : Outcome} {effect : Effect}
    (member : effect ∈ (h.onResult idle outcome).2) : Brings h event effect := by
  cases outcome with
  | canceled =>
    simp only [onResult] at member
    split at member
    · rw [List.mem_singleton.mp member]
      exact .recorded _
    · cases member
  | final result last =>
    cases List.mem_cons.mp member with
    | inl told =>
      rw [told]
      exact .told _
    | inr ended =>
      rw [List.mem_singleton.mp ended]
      exact .recorded _
  | interim result =>
    rw [List.mem_singleton.mp member]
    exact .told _

theorem transition_brings {parameters : Option Parameters} {effect : Effect}
    (member : effect ∈ (h.transition event parameters).2) : Brings h event effect := by
  cases event with
  | response method verdict status errorCode message =>
    simp only [transition, onResponse] at member
    split at member
    · exact onCancelReply_brings member
    · split at member
      next succeeded =>
        have granted : (Inbound.response method verdict status errorCode message).granted? =
            Method.ofOctets? method := by simp only [Inbound.granted?, succeeded, if_true]
        exact onSuccess_brings granted member
      · rw [List.mem_singleton.mp member]
        exact .recorded _
  | result idle outcome => exact onResult_brings member
  | speechStart time =>
    rw [List.mem_singleton.mp member]
    exact .told _
  | speechStop time =>
    rw [List.mem_singleton.mp member]
    exact .told _

/-- When the recognition has started, its audio is streamed, after at most a word to the
listeners. -/
theorem effects_of_starts {parameters : Option Parameters} (starts : event.starts = true) :
    ∃ told, (h.transition event parameters).2 = told ++ h.audioSource.toList.map .startStreaming ∧
      ∀ source, .startStreaming source ∉ told := by
  cases event with
  | response method verdict status errorCode message =>
    obtain ⟨succeeded, started⟩ : Verdict.ofOctets? verdict = some .success ∧
        Method.ofOctets? method = some .startRecognition := by
      simpa [Inbound.starts, Inbound.granted?] using starts
    obtain ⟨s, adopted⟩ := adopt_fields h status
    have effects : (h.transition (.response method verdict status errorCode message)
        parameters).2 = adoptionEffects status ++
          ((h.adopt status).onRecognitionStarted status).2 := by
      simp only [transition, onResponse, onSuccess, succeeded, started, if_true]
    rw [effects, adopted]
    cases status with
    | none => exact ⟨[.notify .listening], rfl, by simp⟩
    | some s =>
      refine ⟨adoptionEffects (some s), rfl, fun source => ?_⟩
      cases s <;> simp [adoptionEffects]
  | _ => simp [Inbound.starts, Inbound.granted?] at starts

end Handle

end SpeechClient
