import SpeechClient.Proofs.Session.History
import SpeechClient.Proofs.Session.Transitions

/-!
# What is told is what is recorded

Effects tell listeners one thing after another, and record outcomes in the end.  The marks for what
they tell bring a recognition to where the records bring the handle.

- `Handle.standing`: where the handle has the recognition.
- `Effect.reports`, `Effect.records`: what an effect tells, and what it records.
- `Handle.transition_standing`: both of an event agree.
-/

namespace SpeechClient

open Wire

def Link.sendFailure (link : Link) (isOpen : Bool) (frame : Frame) : Option RecognitionError :=
  (link.refuseSend isOpen frame).map Refusal.error

namespace Effect

def reports (link : Link) (isOpen : Bool) : Effect → List Notification
  | send frame => (link.sendFailure isOpen frame).toList.map .error
  | notify n => [n]
  | startStreaming _ => link.threadFailure.toList.map .error
  | commit (.fail error) => [.error error]
  | commit _ => []

def records (link : Link) (isOpen : Bool) : Effect → List Commit
  | send frame => (link.sendFailure isOpen frame).toList.map .fail
  | startStreaming _ => link.threadFailure.toList.map .fail
  | commit c => [c]
  | notify _ => []

def allReports (link : Link) (isOpen : Bool) (effects : List Effect) : List Notification :=
  effects.flatMap (reports link isOpen)

def allRecords (link : Link) (isOpen : Bool) (effects : List Effect) : List Commit :=
  effects.flatMap (records link isOpen)

/-- The effect has to do with results and cancels. -/
def concludes : Effect → Bool
  | notify (.result _) | notify (.error _) | commit (.result _ _) | commit (.finish _) => true
  | _ => false

end Effect

namespace Inbound

/-- The event cancels the recognition: it confirms a cancel that was asked for, or the server itself
has canceled a recognition that was under way. -/
def cancels (canceling inRecognition : Bool) : Inbound → Bool
  | response method verdict _ _ _ =>
    canceling && Method.ofOctets? method = some .cancelRecognition &&
      (Verdict.ofOctets? verdict = some .success || Verdict.ofOctets? verdict = some .invalidAction)
  | result _ .canceled => inRecognition
  | _ => false

/-- A result and the event that brings it say the same about its segment. -/
def Consistent : Inbound → Prop
  | result _ (.final r last) => last = r.lastSegment
  | _ => True

theorem outcomeOf_consistent {protocol : ServerProtocol} {frame : Frame} {outcome : Outcome}
    (read : outcomeOf protocol frame = .ok outcome) (idle : Bool) :
    (result idle outcome).Consistent := by
  unfold outcomeOf at read
  extract_lets status at read
  split at read
  · cases read
    trivial
  · split at read
    · cases read
      rfl
    · split at read
      next j _ =>
        cases read
        unfold outcomeOfBody
        split
        · rfl
        · trivial
      · cases read

theorem classify_consistent {protocol : ServerProtocol} {frame : Frame} {event : Inbound}
    (classified : classify protocol frame = some (.ok event)) : event.Consistent := by
  unfold classify at classified
  split at classified
  · cases classified
    trivial
  · simp only [ofResult, Option.some.injEq] at classified
    cases outcome : outcomeOf protocol frame with
    | error fault => simp [outcome, Except.map] at classified
    | ok outcome' =>
      simp only [outcome, Except.map, Except.ok.injEq] at classified
      subst classified
      exact outcomeOf_consistent outcome _
  · cases classified
    trivial
  · cases classified
    trivial
  · cases classified

def ofMessage? (protocol : ServerProtocol) (octets : Bytes) : Option Inbound :=
  match Frame.parse octets with
  | .error _ => none
  | .ok frame =>
    match classify protocol frame with
    | some (.ok event) => some event
    | _ => none

theorem ofMessage?_consistent {protocol : ServerProtocol} {octets : Bytes}
    {event : Inbound} (brought : ofMessage? protocol octets = some event) : event.Consistent := by
  unfold ofMessage? at brought
  split at brought
  · cases brought
  · split at brought
    next classified =>
      cases brought
      exact classify_consistent classified
    · cases brought

end Inbound

namespace Handle

def standing (h : Handle) : History.Standing :=
  { running := h.recognizing, canceling := h.cancelPending, error := h.error, results := h.results }

theorem commit_standing_congr {h h' : Handle} (same : h.standing = h'.standing) (outcome : Commit) :
    (h.commit outcome).standing = (h'.commit outcome).standing := by
  simp only [standing, History.Standing.mk.injEq] at same
  obtain ⟨running, canceling, error, results⟩ := same
  cases outcome with
  | result result last => cases last <;> simp [commit, standing, finishRecognition, *]
  | fail error => simp [commit, standing, finishRecognition, *]
  | finish discard => cases discard <;> simp [commit, standing, finishRecognition, *]

@[simp] theorem record_snd (h : Handle) (outcomes : List Commit) :
    (h.record outcomes).2 = h.commitAll outcomes := by
  cases outcomes with
  | nil => rfl
  | cons outcome rest => rfl

theorem commitAll_standing_congr {h h' : Handle} (same : h.standing = h'.standing)
    (outcomes : List Commit) :
    (h.commitAll outcomes).standing = (h'.commitAll outcomes).standing := by
  induction outcomes generalizing h h' with
  | nil => exact same
  | cons outcome rest after => exact after (commit_standing_congr same outcome)

theorem fail_standing (h : Handle) (error : RecognitionError) :
    (h.commit (.fail error)).standing = h.standing.after (.heard (.error error)) := rfl

theorem discard_standing (h : Handle) :
    (h.commit (.finish true)).standing = h.standing.after .discarded := rfl

theorem result_standing (h : Handle) (r : SegmentResult) :
    (h.commit (.result r r.lastSegment)).standing = h.standing.after (.heard (.result r)) := by
  cases last : r.lastSegment with
  | false => simp [commit, standing, History.Standing.after, last]
  | true => simp [commit, standing, finishRecognition, History.Standing.after, last]

variable (link : Link) (isOpen : Bool)

theorem inconclusive_standing (h : Handle) (effects : List Effect)
    (inconclusive : ∀ effect ∈ effects, effect.concludes = false) :
    (h.commitAll (Effect.allRecords link isOpen effects)).standing =
      h.standing.afterAll ((Effect.allReports link isOpen effects).map .heard) := by
  -- On the effects, for every handle: a failure is recorded before what follows it.
  induction effects generalizing h with
  | nil => rfl
  | cons effect rest after =>
    have later (h : Handle) := after h fun e member => inconclusive e (by simp [member])
    have now := inconclusive effect (by simp)
    cases effect with
    | send frame =>
      simp only [Effect.allRecords, Effect.allReports, List.flatMap_cons, Effect.records,
        Effect.reports] at later ⊢
      cases link.sendFailure isOpen frame with
      | none => exact later h
      | some error => exact later (h.commit (.fail error))
    | startStreaming source =>
      simp only [Effect.allRecords, Effect.allReports, List.flatMap_cons, Effect.records,
        Effect.reports] at later ⊢
      cases link.threadFailure with
      | none => exact later h
      | some error => exact later (h.commit (.fail error))
    | notify n =>
      cases n with
      | result r => simp [Effect.concludes] at now
      | error error => simp [Effect.concludes] at now
      | listening => exact later h
      | speechStart time => exact later h
      | speechStop time => exact later h
      | interim r => exact later h
    | commit outcome =>
      cases outcome with
      | fail error => exact later (h.commit (.fail error))
      | result r last => simp [Effect.concludes] at now
      | finish discard => simp [Effect.concludes] at now

theorem adoptionEffects_inconclusive (status : Option SessionState) :
    ∀ effect ∈ adoptionEffects status, effect.concludes = false := by
  intro effect member
  unfold adoptionEffects at member
  split at member
  · simp only [List.mem_singleton] at member
    rw [member]
    rfl
  · cases member

theorem startEffect_inconclusive (h : Handle) : h.startEffect.concludes = false := by
  unfold startEffect
  split <;> rfl

theorem onSuccess_inconclusive (h : Handle) (method : Option Method)
    (status : Option SessionState) (parameters : Option Parameters) :
    ∀ effect ∈ (h.onSuccess method status parameters).2, effect.concludes = false := by
  intro effect member
  simp only [onSuccess, List.mem_append] at member
  cases member with
  | inl adopted => exact adoptionEffects_inconclusive status effect adopted
  | inr own =>
    split at own
    · cases parameters with
      | some p =>
        simp only [onSessionCreated, List.mem_singleton] at own
        rw [own]
        rfl
      | none =>
        simp only [onSessionCreated, List.mem_singleton] at own
        rw [own]
        exact startEffect_inconclusive _
    · simp only [List.mem_singleton] at own
      rw [own]
      exact startEffect_inconclusive _
    · have streaming : ∀ source : Option SourceId,
          ∀ effect ∈ source.toList.map Effect.startStreaming, effect.concludes = false := by
        intro source effect member
        obtain ⟨i, -, rfl⟩ := List.mem_map.mp member
        rfl
      unfold onRecognitionStarted at own
      cases status with
      | some s => exact streaming _ effect own
      | none =>
        simp only [List.mem_cons] at own
        cases own with
        | inl listening =>
          rw [listening]
          rfl
        | inr stream => exact streaming _ effect stream
    · cases own

/-- A result is recorded after it has been told, and nothing else happens then. -/
theorem transition_result {h : Handle} {event : Inbound} {parameters : Option Parameters}
    {result : SegmentResult} {last : Bool}
    (recorded : .commit (.result result last) ∈ (h.transition event parameters).2) :
    (h.transition event parameters).2 = [.notify (.result result), .commit (.result result last)] := by
  cases event with
  | response method verdict status errorCode message =>
    simp only [transition, onResponse] at recorded
    split at recorded
    · have adopted : .commit (.result result last) ∉ adoptionEffects status := fun member =>
        absurd (adoptionEffects_inconclusive status _ member) (by simp [Effect.concludes])
      unfold onCancelReply at recorded
      split at recorded
      · cases recorded
      · dsimp only at recorded
        split at recorded <;> simp [adopted] at recorded
    · split at recorded
      · exact absurd (onSuccess_inconclusive h _ status parameters _ recorded)
          (by simp [Effect.concludes])
      · simp at recorded
  | result idle outcome =>
    cases outcome with
    | canceled =>
      simp only [transition, onResult] at recorded
      split at recorded <;> simp at recorded
    | final r l =>
      obtain ⟨rfl, rfl⟩ : result = r ∧ last = l := by simpa [transition, onResult] using recorded
      rfl
    | interim r => simp [transition, onResult] at recorded
  | speechStart time => simp [transition] at recorded
  | speechStop time => simp [transition] at recorded

theorem onCancelReply_standing (h : Handle) (verdict : Option Verdict)
    (status : Option SessionState) (failure : RecognitionError) :
    ((h.onCancelReply verdict status failure).1.commitAll
        (Effect.allRecords link isOpen (h.onCancelReply verdict status failure).2)).standing =
      h.standing.afterAll
        ((Effect.allReports link isOpen (h.onCancelReply verdict status failure).2).map .heard ++
          if h.cancelPending && (verdict = some .success || verdict = some .invalidAction) then
            [.discarded] else []) := by
  unfold onCancelReply
  cases pending : h.cancelPending with
  | false => rfl
  | true =>
    -- Both verdicts that confirm a cancel drop the results, whatever state the reply reports.
    have confirmed (s : SessionState) :
        (Handle.commitAll { h with state := s, cancelPending := false }
          (Effect.allRecords link isOpen
            (adoptionEffects status ++ [.commit (.finish true)]))).standing =
        h.standing.afterAll ((Effect.allReports link isOpen (adoptionEffects status ++
          [.commit (.finish true)])).map .heard ++ [.discarded]) := by
      unfold adoptionEffects
      split
      · rfl
      · rfl
    obtain ⟨s, fields⟩ := adopt_settleIdle_fields { h with cancelPending := false } status
    cases verdict with
    | none => rfl
    | some verdict =>
      cases verdict with
      | success =>
        change ((adopt { h with cancelPending := false }
          status).settleIdle.commitAll _).standing = _
        rw [fields]
        exact confirmed s
      | invalidAction =>
        change ((adopt { h with cancelPending := false }
          status).settleIdle.commitAll _).standing = _
        rw [fields]
        exact confirmed s
      | failure => rfl

theorem onResult_standing (h : Handle) (idle : Bool) {outcome : Outcome}
    (consistent : (Inbound.result idle outcome).Consistent) :
    ((h.onResult idle outcome).1.commitAll
        (Effect.allRecords link isOpen (h.onResult idle outcome).2)).standing =
      h.standing.afterAll
        ((Effect.allReports link isOpen (h.onResult idle outcome).2).map .heard ++
          if (Inbound.result idle outcome).cancels h.cancelPending h.state.inRecognition then
            [.discarded] else []) := by
  obtain ⟨s, adopted⟩ := onResult_fields h idle outcome
  rw [adopted]
  cases outcome with
  | canceled =>
    cases under : h.state.inRecognition with
    | false =>
      simp only [onResult, under, Bool.false_eq_true, if_false]
      rfl
    | true =>
      simp only [onResult, under, if_true]
      rfl
  | final r last =>
    have same : last = r.lastSegment := consistent
    rw [same]
    exact result_standing { h with state := s } r
  | interim r => rfl

theorem transition_standing (h : Handle) {event : Inbound} (consistent : event.Consistent)
    (parameters : Option Parameters) :
    ((h.transition event parameters).1.commitAll
        (Effect.allRecords link isOpen (h.transition event parameters).2)).standing =
      h.standing.afterAll
        ((Effect.allReports link isOpen (h.transition event parameters).2).map .heard ++
          if event.cancels h.cancelPending h.state.inRecognition then [.discarded] else []) := by
  cases event with
  | response method result status errorCode message =>
    simp only [transition, onResponse]
    split
    next cancel =>
      have reply := onCancelReply_standing link isOpen h (Verdict.ofOctets? result) status
        (.protocolFailure method.text errorCode.text message.text)
      simpa [Inbound.cancels, cancel] using reply
    next other =>
      -- No other reply cancels anything, and what it starts or refuses is told as it is recorded.
      have kept : (Inbound.response method result status errorCode message).cancels h.cancelPending
          h.state.inRecognition = false := by
        have different : decide (Method.ofOctets? method = some .cancelRecognition) = false :=
          decide_eq_false other
        simp only [Inbound.cancels, different, Bool.and_false, Bool.false_and]
      split
      · obtain ⟨s, fields⟩ := onSuccess_fields h (Method.ofOctets? method) status parameters
        have inconclusive := onSuccess_inconclusive h (Method.ofOctets? method) status parameters
        rw [kept, fields]
        simp only [Bool.false_eq_true, if_false, List.append_nil]
        exact inconclusive_standing link isOpen { h with state := s } _ inconclusive
      · rw [kept]
        rfl
  | result idle outcome => exact onResult_standing link isOpen h idle consistent
  | speechStart time =>
    simp only [transition]
    split
    · rfl
    · rfl
  | speechStop time => rfl

end Handle

end SpeechClient
