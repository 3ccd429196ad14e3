import SpeechClient.Proofs.Session.CancelReply
import SpeechClient.Proofs.Session.Handshake

/-!
# What an event decides

The transition moves the session and says what has to happen; whether the recognition goes on is
only decided by the outcomes among that, when they are recorded.

- `Handle.transition_handshakeReply`: where the replies of the handshake take the session, and what
  comes with them.
- `Commit.ends`, `Inbound.Ends`: the outcomes and the events that end a recognition.
- `Handle.transition_decides`: what a transition leaves alone, and which events end a recognition.
-/

namespace SpeechClient

open Wire

/-! ## Replies of the handshake -/

def Wire.Frame.grant (method status : String) : Frame :=
  (((Frame.new protocolVersion (utf8 "RESPONSE")).setHeader Key.method (utf8 method)).setHeader
    Key.result (utf8 "SUCCESS")).setHeader Key.sessionStatus (utf8 status)

namespace Inbound

theorem classify_of_response {frame : Frame} (response : frame.method? = some .response)
    (protocol : ServerProtocol) : classify protocol frame = some (.ok (ofResponse frame)) := by
  simp only [classify, response]

end Inbound

namespace Handle

variable {h : Handle} {parameters : Option Parameters}

@[simp] theorem adopt_state (h : Handle) (status : Option SessionState) :
    (h.adopt status).state = status.getD h.state := by
  cases status <;> rfl

@[simp] theorem adopt_audioSource (h : Handle) (status : Option SessionState) :
    (h.adopt status).audioSource = h.audioSource := by
  cases status <;> rfl

@[simp] theorem adopt_languageModel (h : Handle) (status : Option SessionState) :
    (h.adopt status).languageModel = h.languageModel := by
  cases status <;> rfl

theorem adoptionEffects_eq (status : Option SessionState) :
    adoptionEffects status = if status = some .listening then [.notify .listening] else [] := by
  cases status with
  | none => rfl
  | some s => cases s <;> rfl

theorem transition_of_success {frame : Frame} {method : Method}
    (succeeded : Verdict.ofOctets? (Inbound.headerValue frame Key.result) = some .success)
    (asked : Method.ofOctets? (Inbound.headerValue frame Key.method) = some method)
    (other : method ≠ .cancelRecognition) :
    h.transition (Inbound.ofResponse frame) parameters =
      h.onSuccess (some method) (Inbound.replyStatus frame) parameters := by
  simp only [transition, Inbound.ofResponse, onResponse, asked, succeeded, if_true]
  split
  next same => exact absurd (Option.some.inj same) other
  · rfl

/-- Without a status of its own the reply makes a session that is idle. -/
theorem onSuccess_createSession_state {status : Option SessionState} (unknown : h.state = .none)
    (recognizable : status ≠ some .none) :
    (h.onSuccess (some .createSession) status parameters).1.state = status.getD .idle := by
  have created : (if (h.adopt status).state = .none then { h.adopt status with state := .idle }
      else h.adopt status : Handle).state = status.getD .idle := by
    rw [adopt_state, unknown]
    cases status with
    | none => rfl
    | some s =>
      have known : s ≠ .none := fun same => recognizable (congrArg some same)
      rw [Option.getD_some, if_neg known, adopt_state]
      rfl
  cases parameters with
  | none => exact created
  | some p => exact created

theorem onSuccess_startRecognition (h : Handle) (status : Option SessionState)
    (parameters : Option Parameters) :
    h.onSuccess (some .startRecognition) status parameters =
      ({ h with state := status.getD .listening },
        (if status.getD .listening = .listening then [.notify .listening] else []) ++
          h.audioSource.toList.map .startStreaming) := by
  cases status with
  | none => rfl
  | some s => simp [onSuccess, onRecognitionStarted, adoptionEffects_eq, adopt]

/-- A canceled recognition is only noticed where speech was awaited or heard. -/
theorem transition_canceled (h : Handle) (idle : Bool) (parameters : Option Parameters) :
    (h.transition (.result idle .canceled) parameters).2 =
      if h.state.inRecognition then [.commit (.finish true)] else [] := by
  simp only [transition, onResult]
  split
  · rfl
  · rfl

/-- The status that a reply of the handshake reports goes before all else.  Without one the session
is idle after the first two replies, and the server listens after the third.  Listeners are told
once if the server listens then, and the audio of the recognition is streamed.  Unless the reply
itself reports an idle session, the streaming begins where it is noticed that the recognition is
canceled. -/
theorem transition_handshakeReply (h : Handle) (parameters : Option Parameters) {frame : Frame}
    (response : frame.method? = some .response)
    (succeeded : Verdict.ofOctets? (Inbound.headerValue frame Key.result) = some .success) :
    let method := Method.ofOctets? (Inbound.headerValue frame Key.method)
    let status := Inbound.replyStatus frame
    ∃ event, (∀ protocol, Inbound.classify protocol frame = some (.ok event)) ∧
      let later := h.transition event parameters
      (method = some .createSession → h.state = .none → later.1.state = status.getD .idle) ∧
      (method = some .setParameters → h.state = .idle → later.1.state = status.getD .idle) ∧
      (method = some .startRecognition → later.1.state = status.getD .listening ∧
        later.2 = (if status.getD .listening = .listening then [.notify .listening] else []) ++
          h.audioSource.toList.map .startStreaming) ∧
      ∀ source, .startStreaming source ∈ later.2 → status ≠ some .idle → ∀ idle more,
        (later.1.transition (.result idle .canceled) more).2 = [.commit (.finish true)] := by
  intro method status
  -- A reply that reports that there is no session is one that reports nothing.
  have recognizable : status ≠ some .none := Engine.replyStatus_ne_none frame
  have started (asked : method = some .startRecognition) :
      h.transition (Inbound.ofResponse frame) parameters = _ :=
    (transition_of_success succeeded asked (by decide)).trans
      (onSuccess_startRecognition h status parameters)
  refine ⟨Inbound.ofResponse frame, Inbound.classify_of_response response, ?_, ?_, ?_, ?_⟩
  · intro asked unknown
    rw [transition_of_success succeeded asked (by decide)]
    exact onSuccess_createSession_state unknown recognizable
  · intro asked idle
    rw [transition_of_success succeeded asked (by decide), ← idle]
    exact adopt_state h status
  · intro asked
    rw [started asked]
    exact ⟨rfl, rfl⟩
  · intro source streams awake idle more
    have asked : method = some .startRecognition := by
      cases transition_brings streams with
      | stream starts =>
        simpa [Inbound.starts, Inbound.granted?, Inbound.ofResponse, succeeded] using starts
    -- What starts a stream is a granted start, so the session is left as that reply says.
    have running : (status.getD .listening).inRecognition = true := by
      cases reported : status with
      | none => rfl
      | some s =>
        cases s with
        | none => exact absurd reported recognizable
        | idle => exact absurd reported awake
        | listening => rfl
        | recognizing => rfl
    rw [transition_canceled, started asked, if_pos running]

/-- The recognition has started, and the reply says no more than that. -/
theorem transition_handshakeReply_streaming :
    let begun := Handle.begin { state := .idle } 0 (.ofUri "builtin:slm")
    ∃ event, (∀ protocol, Inbound.classify protocol (.grant "START_RECOGNITION" "NONE") =
        some (.ok event)) ∧
      let later := begun.transition event none
      later.1.state = .listening ∧ later.2 = [.notify .listening, .startStreaming 0] ∧
        (later.1.transition (.result false .canceled) none).2 = [.commit (.finish true)] := by
  intro begun
  let frame := Frame.grant "START_RECOGNITION" "NONE"
  have response : frame.method? = some .response := by decide +kernel
  have succeeded : Verdict.ofOctets? (Inbound.headerValue frame Key.result) = some .success := by
    decide +kernel
  have asked : Method.ofOctets? (Inbound.headerValue frame Key.method) =
      some .startRecognition := by decide +kernel
  have unreported : Inbound.replyStatus frame = none := by decide +kernel
  obtain ⟨event, classified, -, -, started, noticed⟩ :=
    transition_handshakeReply begun none response succeeded
  obtain ⟨state, effects⟩ := started asked
  rw [unreported] at state effects
  refine ⟨event, classified, state, effects, noticed 0 ?_ (by simp [unreported]) false none⟩
  rw [effects]
  exact List.mem_append_right _ (List.mem_singleton_self _)

/-- Replies that report another status than the request leads to: speech is heard before anything
was started, and the audio of a recognition is streamed that nobody was told of, and whose end goes
unnoticed. -/
theorem reported_status_kept :
    let begun := Handle.begin {} 0 (.ofUri "builtin:slm")
    let after (state : SessionState) (frame : Frame) :=
      ({ begun with state } : Handle).transition (Inbound.ofResponse frame) none
    (after .none (Frame.grant "CREATE_SESSION" "RECOGNIZING")).1.state = .recognizing ∧
      (after .idle (Frame.grant "SET_PARAMETERS" "RECOGNIZING")).1.state = .recognizing ∧
      let started := after .idle (Frame.grant "START_RECOGNITION" "IDLE")
      started.1.state = .idle ∧ started.2 = [.startStreaming 0] ∧
        (started.1.transition (.result false .canceled) none).2 = [] := by
  decide +kernel

end Handle

/-! ## Outcomes that end a recognition -/

/-- Recorded, the outcome ends the recognition. -/
def Commit.ends : Commit → Bool
  | result _ lastSegment => lastSegment
  | fail _ | finish _ => true

def Effect.outcome? : Effect → Option Commit
  | commit outcome => some outcome
  | _ => none

namespace Handle

def withOutcomes (h : Handle) (effects : List Effect) : Handle :=
  h.commitAll (effects.filterMap Effect.outcome?)

theorem commit_of_ends (h : Handle) {outcome : Commit} (ends : outcome.ends = true) :
    (h.commit outcome).recognizing = false := by
  cases outcome with
  | result r last =>
    have last : last = true := ends
    rw [last]
    rfl
  | fail error => rfl
  | finish discard => rfl

/-- An outcome that does not end the recognition only adds to its results. -/
theorem commit_of_lasting (h : Handle) {outcome : Commit} (lasting : outcome.ends = false) :
    ∃ results, h.commit outcome = { h with results } := by
  cases outcome with
  | result r last =>
    have last : last = false := lasting
    rw [last]
    exact ⟨_, rfl⟩
  | fail error => cases lasting
  | finish discard => cases lasting

theorem commitAll_ended (h : Handle) (outcomes : List Commit) (ended : h.recognizing = false) :
    (h.commitAll outcomes).recognizing = false := by
  induction outcomes generalizing h with
  | nil => exact ended
  | cons outcome rest after =>
    refine after (h.commit outcome) (Bool.eq_false_iff.mpr fun runs => ?_)
    exact Bool.eq_false_iff.mp ended ((h.commit_flags outcome).1 runs)

theorem commitAll_of_ends (h : Handle) {outcomes : List Commit}
    (ends : ∃ outcome ∈ outcomes, outcome.ends = true) :
    (h.commitAll outcomes).recognizing = false := by
  -- On the outcomes as they are recorded: what comes after the one that ends it changes nothing.
  induction outcomes generalizing h with
  | nil => simp at ends
  | cons outcome rest after =>
    cases now : outcome.ends with
    | true => exact commitAll_ended (h.commit outcome) rest (h.commit_of_ends now)
    | false => exact after (h.commit outcome) (by simpa [now] using ends)

theorem commitAll_of_lasting (h : Handle) {outcomes : List Commit}
    (lasting : ∀ outcome ∈ outcomes, outcome.ends = false) :
    ∃ results, h.commitAll outcomes = { h with results } := by
  induction outcomes generalizing h with
  | nil => exact ⟨h.results, rfl⟩
  | cons outcome rest after =>
    obtain ⟨now, later⟩ := List.forall_mem_cons.mp lasting
    obtain ⟨results, recorded⟩ := h.commit_of_lasting now
    obtain ⟨more, rest⟩ := after (h.commit outcome) later
    exact ⟨more, rest.trans (by rw [recorded])⟩

end Handle

/-! ## Events that end a recognition -/

def Handle.Startable (h : Handle) : Prop :=
  ∃ model, h.languageModel = some model ∧ model.usable = true

namespace Inbound

/-- The event ends the running recognition of a handle: its last segment has a final result, the
server has canceled it while it awaited or heard speech, a cancel that was asked for has its reply,
any other request was refused, or the handshake goes on with no model to recognize against. -/
inductive Ends (h : Handle) (parameters : Option Parameters) : Inbound → Prop where
  | lastSegment {idle : Bool} {r : SegmentResult} : Ends h parameters (.result idle (.final r true))
  | canceled {idle : Bool} : h.state.inRecognition = true →
      Ends h parameters (.result idle .canceled)
  | cancelReply {method verdict errorCode message : Bytes} {status : Option SessionState} :
      Method.ofOctets? method = some .cancelRecognition → h.cancelPending = true →
      Ends h parameters (.response method verdict status errorCode message)
  | refused {method verdict errorCode message : Bytes} {status : Option SessionState} :
      Method.ofOctets? method ≠ some .cancelRecognition →
      Verdict.ofOctets? verdict ≠ some .success →
      Ends h parameters (.response method verdict status errorCode message)
  | unstartable {method verdict errorCode message : Bytes} {status : Option SessionState} :
      Verdict.ofOctets? verdict = some .success →
      (Method.ofOctets? method = some .createSession ∧ parameters = none ∨
        Method.ofOctets? method = some .setParameters) →
      ¬h.Startable → Ends h parameters (.response method verdict status errorCode message)

end Inbound

namespace Handle

variable {h : Handle} {parameters : Option Parameters}

def Concluded (effects : List Effect) : Prop :=
  ∃ outcome, .commit outcome ∈ effects ∧ outcome.ends = true

theorem concluded_iff {effects : List Effect} :
    Concluded effects ↔ ∃ outcome ∈ effects.filterMap Effect.outcome?, outcome.ends = true := by
  have same (outcome : Commit) :
      outcome ∈ effects.filterMap Effect.outcome? ↔ .commit outcome ∈ effects := by
    rw [List.mem_filterMap]
    constructor
    · rintro ⟨effect, member, brings⟩
      cases effect with
      | commit c => exact Option.some.inj brings ▸ member
      | _ => cases brings
    · exact fun member => ⟨_, member, rfl⟩
  simp only [Concluded, same]

theorem startEffect_cases (h : Handle) :
    (∃ frame, h.startEffect = .send frame) ∧ h.Startable ∨
      (∃ error, h.startEffect = .commit (.fail error)) ∧ ¬h.Startable := by
  unfold startEffect Request.startRecognition Startable
  cases h.languageModel with
  | none => exact .inr ⟨⟨_, rfl⟩, by simp⟩
  | some model =>
    dsimp only
    obtain ⟨usable, frame, applied⟩ | ⟨unusable, applied⟩ := model.apply_cases
      ((Frame.request .startRecognition).setHeader Key.accept ContentType.json)
    · rw [applied]
      exact .inl ⟨⟨frame, rfl⟩, model, rfl, usable⟩
    · rw [applied]
      exact .inr ⟨⟨_, rfl⟩, by simp [unusable]⟩

theorem concluded_adoptionEffects_append (status : Option SessionState) (rest : List Effect) :
    Concluded (adoptionEffects status ++ rest) ↔ Concluded rest := by
  rw [adoptionEffects_eq]
  split
  · simp [Concluded]
  · rfl

theorem concluded_startEffect (h : Handle) : Concluded [h.startEffect] ↔ ¬h.Startable := by
  obtain ⟨⟨frame, sends⟩, startable⟩ | ⟨⟨error, fails⟩, unstartable⟩ := h.startEffect_cases
  · simp [Concluded, sends, startable]
  · rw [fails]
    exact ⟨fun _ => unstartable, fun _ => ⟨_, List.mem_singleton_self _, rfl⟩⟩

theorem onCancelReply_concluded (verdict : Option Verdict) (status : Option SessionState)
    (failure : RecognitionError) :
    Concluded (h.onCancelReply verdict status failure).2 ↔ h.cancelPending = true := by
  have ended : Concluded [.commit (.finish true)] := ⟨_, List.mem_singleton_self _, rfl⟩
  have failed : Concluded [.commit (.fail failure)] := ⟨_, List.mem_singleton_self _, rfl⟩
  unfold onCancelReply
  cases h.cancelPending with
  | false => simp [Concluded]
  | true =>
    refine ⟨fun _ => rfl, fun _ => ?_⟩
    rw [Bool.not_true, if_neg Bool.false_ne_true]
    dsimp only
    split
    · exact (concluded_adoptionEffects_append status _).mpr ended
    · exact (concluded_adoptionEffects_append status _).mpr ended
    · exact failed

theorem onSuccess_concluded (method : Option Method) (status : Option SessionState) :
    Concluded (h.onSuccess method status parameters).2 ↔
      (method = some .createSession ∧ parameters = none ∨ method = some .setParameters) ∧
        ¬h.Startable := by
  have sameModel (s : Handle) (same : s.languageModel = h.languageModel) :
      Concluded [s.startEffect] ↔ ¬h.Startable := by
    rw [concluded_startEffect, Startable, same, Startable]
  have streaming (source : Option SourceId) :
      ¬Concluded (source.toList.map Effect.startStreaming) := by
    cases source <;> simp [Concluded]
  -- Adopting a status leaves the model alone, and brings a notification at most.
  unfold onSuccess
  rw [concluded_adoptionEffects_append]
  split
  · cases parameters with
    | some p => simp [onSessionCreated, Concluded]
    | none =>
      have created := sameModel (if (h.adopt status).state = .none then
        { h.adopt status with state := .idle } else h.adopt status) (by split <;> simp)
      simpa [onSessionCreated] using created
  · simpa using sameModel (h.adopt status) (by simp)
  · unfold onRecognitionStarted
    cases status with
    | some s => simpa using streaming (h.adopt (some s)).audioSource
    | none => simp [Concluded]
  next created set _ =>
    have unrelated : ¬(method = some .createSession ∧ parameters = none ∨
        method = some .setParameters) := by
      rintro (⟨same, -⟩ | same)
      · exact created same
      · exact set same
    simp [Concluded, unrelated]

theorem onResult_concluded (idle : Bool) (outcome : Outcome) :
    Concluded (h.onResult idle outcome).2 ↔
      outcome = .canceled ∧ h.state.inRecognition = true ∨ ∃ r, outcome = .final r true := by
  cases outcome with
  | canceled =>
    simp only [onResult]
    split
    next running => simp [Concluded, running, Commit.ends]
    next resting => simp [Concluded, resting]
  | final r last => simp [onResult, Concluded, Commit.ends]
  | interim r => simp [onResult, Concluded]

/-- What an event brings ends the recognition exactly if the event is one of those that do. -/
theorem transition_concluded (event : Inbound) :
    Concluded (h.transition event parameters).2 ↔ event.Ends h parameters := by
  cases event with
  | response method verdict status errorCode message =>
    simp only [transition, onResponse]
    split
    next canceling =>
      rw [onCancelReply_concluded]
      refine ⟨fun pending => .cancelReply canceling pending, fun ends => ?_⟩
      cases ends with
      | cancelReply _ pending => exact pending
      | refused other => exact absurd canceling other
      | unstartable _ asked => simp [canceling] at asked
    next other =>
      split
      next succeeded =>
        rw [onSuccess_concluded]
        constructor
        · rintro ⟨asked, lacking⟩
          exact .unstartable succeeded asked lacking
        · intro ends
          cases ends with
          | cancelReply canceling => exact absurd canceling other
          | refused _ failed => exact absurd succeeded failed
          | unstartable _ asked lacking => exact ⟨asked, lacking⟩
      next failed =>
        exact ⟨fun _ => .refused other failed, fun _ => ⟨_, List.mem_singleton_self _, rfl⟩⟩
  | result idle outcome =>
    rw [transition, onResult_concluded]
    constructor
    · rintro (⟨rfl, running⟩ | ⟨r, rfl⟩)
      · exact .canceled running
      · exact .lastSegment
    · intro ends
      cases ends with
      | lastSegment => exact .inr ⟨_, rfl⟩
      | canceled running => exact .inl ⟨rfl, running⟩
  | speechStart time =>
    have lasts : ¬(Inbound.speechStart time).Ends h parameters := by rintro ⟨⟩
    simp [transition, Concluded, lasts]
  | speechStop time =>
    have lasts : ¬(Inbound.speechStop time).Ends h parameters := by rintro ⟨⟩
    simp [transition, Concluded, lasts]

end Handle

/-! ## What a transition leaves alone -/

namespace Inbound

def reported? : Inbound → Option SessionState
  | response _ _ status _ _ => status
  | _ => none

/-- A reply that says there is no session is taken as one that says nothing of it. -/
theorem reported?_of_classify {protocol : ServerProtocol} {frame : Frame} {event : Inbound}
    (classified : classify protocol frame = some (.ok event)) :
    event.reported? ≠ some .none := by
  unfold classify at classified
  split at classified
  · cases classified
    exact Engine.replyStatus_ne_none frame
  · simp only [ofResult, Option.some.injEq] at classified
    cases read : outcomeOf protocol frame with
    | error fault => simp [read, Except.map] at classified
    | ok outcome =>
      simp only [read, Except.map, Except.ok.injEq] at classified
      subst classified
      exact (Option.some_ne_none _).symm
  · cases classified
    exact (Option.some_ne_none _).symm
  · cases classified
    exact (Option.some_ne_none _).symm
  · cases classified

end Inbound

namespace Handle

variable {h : Handle} {parameters : Option Parameters} {status : Option SessionState}

theorem onCancelReply_state_eq_none (recognizable : status ≠ some .none)
    {verdict : Option Verdict} {failure : RecognitionError}
    (unknown : (h.onCancelReply verdict status failure).1.state = .none) : h.state = .none := by
  have settled (unknown : ((adopt { h with cancelPending := false } status).settleIdle).state =
      .none) : h.state = .none := by
    rw [settleIdle_state _ recognizable] at unknown
    split at unknown
    · cases unknown
    · exact unknown
  unfold onCancelReply at unknown
  split at unknown
  · exact unknown
  · dsimp only at unknown
    split at unknown
    · exact settled unknown
    · exact settled unknown
    · exact unknown

theorem onSuccess_state_eq_none (recognizable : status ≠ some .none) {method : Option Method}
    (unknown : (h.onSuccess method status parameters).1.state = .none) : h.state = .none := by
  have adopted (unknown : (h.adopt status).state = .none) : h.state = .none := by
    rw [adopt_state] at unknown
    cases status with
    | none => exact unknown
    | some s => exact absurd (congrArg some unknown) recognizable
  unfold onSuccess at unknown
  split at unknown
  · -- There is a session now, even if nothing was known of it before.
    have known : (if (h.adopt status).state = .none then { h.adopt status with state := .idle }
        else h.adopt status : Handle).state ≠ .none := by
      split
      · intro unknown
        cases unknown
      next known => exact known
    cases parameters with
    | none => exact absurd unknown known
    | some p => exact absurd unknown known
  · exact adopted unknown
  · cases status with
    | none => cases unknown
    | some s => exact adopted unknown
  · exact adopted unknown

theorem onResult_state_eq_none {idle : Bool} {outcome : Outcome}
    (unknown : (h.onResult idle outcome).1.state = .none) : h.state = .none := by
  cases idle with
  | true =>
    cases outcome with
    | canceled =>
      simp only [onResult] at unknown
      split at unknown <;> cases unknown
    | final r last => cases last <;> cases unknown
    | interim r => cases unknown
  | false =>
    cases outcome with
    | canceled =>
      simp only [onResult] at unknown
      split at unknown
      · cases unknown
      · exact unknown
    | final r last =>
      cases last with
      | true => cases unknown
      | false => exact unknown
    | interim r => exact unknown

theorem transition_state_eq_none {event : Inbound} (recognizable : event.reported? ≠ some .none)
    (unknown : (h.transition event parameters).1.state = .none) : h.state = .none := by
  cases event with
  | response method verdict status errorCode message =>
    simp only [transition, onResponse] at unknown
    split at unknown
    · exact onCancelReply_state_eq_none recognizable unknown
    · split at unknown
      · exact onSuccess_state_eq_none recognizable unknown
      · exact unknown
  | result idle outcome => exact onResult_state_eq_none unknown
  | speechStart time =>
    simp only [transition] at unknown
    split at unknown
    · cases unknown
    · exact unknown
  | speechStop time => exact unknown

/-- The status that a refusal reports is not looked at. -/
theorem transition_of_refused (h : Handle) (parameters : Option Parameters)
    {method verdict : Bytes} (status : Option SessionState) (errorCode message : Bytes)
    (other : Method.ofOctets? method ≠ some .cancelRecognition)
    (refused : Verdict.ofOctets? verdict ≠ some .success) :
    h.transition (.response method verdict status errorCode message) parameters =
      (h, [.commit (.fail (.protocolFailure method.text errorCode.text message.text))]) := by
  simp only [transition, onResponse]
  split
  next granted => exact absurd granted refused
  · rfl

/-- A transition moves the session, which it never loses, and takes note of the reply to a cancel;
all else stays as it is.  A refusal of anything but a cancel only brings the failure that is
recorded.  And with the outcomes recorded a running recognition has ended, and nobody waits for it
any more, exactly after the events that end one. -/
theorem transition_decides (h : Handle) (parameters : Option Parameters)
    {protocol : ServerProtocol} {frame : Frame} {event : Inbound}
    (classified : Inbound.classify protocol frame = some (.ok event)) :
    let later := h.transition event parameters
    (∃ state cancelPending, later.1 = { h with state, cancelPending }) ∧
      (later.1.state = .none → h.state = .none) ∧
      (∀ method verdict status errorCode message,
        event = .response method verdict status errorCode message →
        Method.ofOctets? method ≠ some .cancelRecognition →
        Verdict.ofOctets? verdict ≠ some .success →
        later = (h, [.commit (.fail
          (.protocolFailure method.text errorCode.text message.text))])) ∧
      (h.recognizing = true →
        ((later.1.withOutcomes later.2).recognizing = false ↔ event.Ends h parameters)) ∧
      (h.stillWaiting = true →
        ((later.1.withOutcomes later.2).stillWaiting = false ↔ event.Ends h parameters)) := by
  intro later
  obtain ⟨state, cancelPending, fields, -⟩ := h.transition_fields event parameters
  have running : later.1.recognizing = h.recognizing := congrArg (·.recognizing) fields
  have error : later.1.error = h.error := congrArg (·.error) fields
  have ended (ends : event.Ends h parameters) :
      (later.1.withOutcomes later.2).recognizing = false :=
    commitAll_of_ends _ (concluded_iff.mp (transition_concluded event |>.mpr ends))
  have lasting (lasts : ¬event.Ends h parameters) :
      (later.1.withOutcomes later.2).recognizing = h.recognizing ∧
        (later.1.withOutcomes later.2).stillWaiting = h.stillWaiting := by
    have outcomes : ∀ outcome ∈ later.2.filterMap Effect.outcome?, outcome.ends = false := by
      refine fun outcome member => Bool.eq_false_iff.mpr fun ends => lasts ?_
      exact (transition_concluded event).mp (concluded_iff.mpr ⟨outcome, member, ends⟩)
    obtain ⟨results, same⟩ := later.1.commitAll_of_lasting outcomes
    rw [withOutcomes, same]
    exact ⟨running, by simp only [stillWaiting, running, error]⟩
  refine ⟨⟨state, cancelPending, fields⟩,
    transition_state_eq_none (Inbound.reported?_of_classify classified), ?_, ?_, ?_⟩
  · rintro method verdict status errorCode message rfl other refused
    exact h.transition_of_refused parameters status errorCode message other refused
  · intro runs
    refine ⟨fun stopped => ?_, ended⟩
    by_contra lasts
    rw [(lasting lasts).1, runs] at stopped
    cases stopped
  · intro waiting
    refine ⟨fun stopped => ?_, fun ends => by simp [stillWaiting, ended ends]⟩
    by_contra lasts
    rw [(lasting lasts).2, waiting] at stopped
    cases stopped

/-- A refused reply fails the recognition though it reports that speech is heard, and so does not
move the session; a result without a body ends it as well. -/
theorem transition_decides_refused :
    let begun := Handle.begin { state := .listening } 0 (.ofUri "builtin:slm")
    let refusal :=
      (Frame.grant "DEFINE_GRAMMAR" "RECOGNIZING").setHeader Key.result (utf8 "FAILURE")
    let result := (Frame.new protocolVersion (utf8 "RECOGNITION_RESULT")).setHeader
      Key.resultStatus (utf8 "NO_MATCH")
    (∃ event, Inbound.classify .current refusal = some (.ok event) ∧
      begun.transition event none =
        (begun, [.commit (.fail (.protocolFailure "DEFINE_GRAMMAR" "" ""))]) ∧
      (begun.withOutcomes (begun.transition event none).2).stillWaiting = false) ∧
    ∃ event, Inbound.classify .current result = some (.ok event) ∧
      let later := begun.transition event none
      later.1.state ≠ .none ∧ (later.1.withOutcomes later.2).recognizing = false := by
  intro begun refusal result
  have reply : Inbound.ofResponse refusal = .response (utf8 "DEFINE_GRAMMAR") (utf8 "FAILURE")
      (some .recognizing) [] [] := by decide +kernel
  have response : refusal.method? = some .response := by decide +kernel
  have refusalRead := reply ▸ Inbound.classify_of_response response .current
  have reports : result.method? = some .recognitionResult := by decide +kernel
  have code : (Inbound.headerValue result Key.resultStatus).text = "NO_MATCH" := by decide +kernel
  have idle : (Inbound.headerValue result Key.sessionStatus).text = "" := by decide +kernel
  have resultRead : Inbound.classify .current result =
      some (.ok (.result false (.final (.ofStatus "NO_MATCH") true))) := by
    simp only [Inbound.classify, reports, Inbound.ofResult, Inbound.outcomeOf, code, idle]
    rfl
  have unsuccessful : Verdict.ofOctets? (utf8 "FAILURE") ≠ some .success := by decide +kernel
  have other : Method.ofOctets? (utf8 "DEFINE_GRAMMAR") ≠ some .cancelRecognition := by
    decide +kernel
  obtain ⟨-, -, refused, -, stopped⟩ := begun.transition_decides none refusalRead
  obtain ⟨-, known, -, ended, -⟩ := begun.transition_decides none resultRead
  have unchanged := refused _ _ _ _ _ rfl other unsuccessful
  have named : (utf8 "DEFINE_GRAMMAR").text = "DEFINE_GRAMMAR" := by decide +kernel
  rw [named] at unchanged
  rw [unchanged] at stopped
  refine ⟨⟨_, refusalRead, unchanged, ?_⟩, _, resultRead, ?_, ?_⟩
  · rw [unchanged]
    exact (stopped rfl).mpr (.refused other unsuccessful)
  · exact fun unknown => absurd (known unknown) (by decide)
  · exact (ended rfl).mpr .lastSegment

end Handle

end SpeechClient
