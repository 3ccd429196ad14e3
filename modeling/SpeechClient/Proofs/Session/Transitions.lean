import SpeechClient.Session.Transition

/-!
# What a transition writes

A transition leaves most of the handle as it is: results and failures are only recorded with the
commits that come after the callbacks.  Each part of a transition writes the state of the session,
and the one that deals with the reply to a cancel also takes back that a cancel is pending.  Commits
in turn leave the session and the audio as they are.
-/

namespace SpeechClient.Handle

open Wire

theorem adopt_fields (h : Handle) (status : Option SessionState) :
    ∃ s, h.adopt status = { h with state := s } := by
  cases status with
  | none => exact ⟨h.state, rfl⟩
  | some s => exact ⟨s, rfl⟩

theorem adopt_settleIdle_fields (h : Handle) (status : Option SessionState) :
    ∃ s, (h.adopt status).settleIdle = { h with state := s } := by
  obtain ⟨s, adopted⟩ := adopt_fields h status
  rw [adopted]
  unfold settleIdle
  split
  · exact ⟨.idle, rfl⟩
  · exact ⟨s, rfl⟩

theorem onCancelReply_fields (h : Handle) (verdict : Option Verdict) (status : Option SessionState)
    (failure : RecognitionError) : ∃ s pending, (h.onCancelReply verdict status failure).1 =
      { h with state := s, cancelPending := pending } ∧
      (pending = true → h.cancelPending = true) := by
  unfold onCancelReply
  split
  next pending => exact ⟨h.state, h.cancelPending, rfl, id⟩
  · obtain ⟨s, settled⟩ := adopt_settleIdle_fields { h with cancelPending := false } status
    dsimp only
    split
    · exact ⟨s, false, settled, by simp⟩
    · exact ⟨s, false, settled, by simp⟩
    · exact ⟨h.state, false, rfl, by simp⟩

theorem onSuccess_fields (h : Handle) (method : Option Method) (status : Option SessionState)
    (parameters : Option Parameters) :
    ∃ s, (h.onSuccess method status parameters).1 = { h with state := s } := by
  obtain ⟨s, adopted⟩ := adopt_fields h status
  simp only [onSuccess, adopted]
  split
  · obtain ⟨t, created⟩ : ∃ t, (if s = .none then { h with state := .idle } else
        { h with state := s } : Handle) = { h with state := t } := by
      split
      · exact ⟨.idle, rfl⟩
      · exact ⟨s, rfl⟩
    refine ⟨t, ?_⟩
    rw [← created]
    cases parameters with
    | none => rfl
    | some p => rfl
  · exact ⟨s, rfl⟩
  · unfold onRecognitionStarted
    cases status with
    | none => exact ⟨.listening, rfl⟩
    | some _ => exact ⟨s, rfl⟩
  · exact ⟨s, rfl⟩

theorem onResult_fields (h : Handle) (idle : Bool) (outcome : Outcome) :
    ∃ s, (h.onResult idle outcome).1 = { h with state := s } := by
  obtain ⟨s, adopted⟩ : ∃ s, (if idle = true then { h with state := .idle } else h : Handle) =
      { h with state := s } := by
    split
    · exact ⟨.idle, rfl⟩
    · exact ⟨h.state, rfl⟩
  simp only [onResult, adopted]
  cases outcome with
  | canceled =>
    dsimp only
    split
    · exact ⟨.idle, rfl⟩
    · exact ⟨s, rfl⟩
  | final result last =>
    dsimp only
    split
    · exact ⟨.idle, rfl⟩
    · exact ⟨s, rfl⟩
  | interim result => exact ⟨s, rfl⟩

/-- A transition writes two fields, and it never asks for a cancel. -/
theorem transition_fields (h : Handle) (event : Inbound) (parameters : Option Parameters) :
    ∃ s pending, (h.transition event parameters).1 =
      { h with state := s, cancelPending := pending } ∧
      (pending = true → h.cancelPending = true) := by
  cases event with
  | response method result status errorCode message =>
    simp only [transition, onResponse]
    split
    · exact onCancelReply_fields _ _ _ _
    · split
      · obtain ⟨s, fields⟩ := onSuccess_fields h (Method.ofOctets? method) status parameters
        exact ⟨s, h.cancelPending, fields, id⟩
      · exact ⟨h.state, h.cancelPending, rfl, id⟩
  | result idle outcome =>
    obtain ⟨s, fields⟩ := onResult_fields h idle outcome
    exact ⟨s, h.cancelPending, fields, id⟩
  | speechStart time =>
    simp only [transition]
    split
    · exact ⟨.recognizing, h.cancelPending, rfl, id⟩
    · exact ⟨h.state, h.cancelPending, rfl, id⟩
  | speechStop time => exact ⟨h.state, h.cancelPending, rfl, id⟩

/-- A commit writes what has to do with the outcome. -/
theorem commit_fields (h : Handle) (outcome : Commit) : ∃ results error recognizing pending,
    h.commit outcome = { h with results, error, recognizing, cancelPending := pending } := by
  cases outcome with
  | result result last =>
    cases last with
    | false => exact ⟨_, h.error, h.recognizing, h.cancelPending, rfl⟩
    | true => exact ⟨_, h.error, false, false, rfl⟩
  | fail error => exact ⟨h.results, _, false, false, rfl⟩
  | finish discard =>
    cases discard with
    | false => exact ⟨h.results, h.error, false, false, rfl⟩
    | true => exact ⟨[], h.error, false, false, rfl⟩

@[simp]
theorem commit_state (h : Handle) (outcome : Commit) : (h.commit outcome).state = h.state := by
  obtain ⟨_, _, _, _, fields⟩ := h.commit_fields outcome
  rw [fields]

@[simp]
theorem commit_audioSource (h : Handle) (outcome : Commit) :
    (h.commit outcome).audioSource = h.audioSource := by
  obtain ⟨_, _, _, _, fields⟩ := h.commit_fields outcome
  rw [fields]

@[simp]
theorem commit_active (h : Handle) (outcome : Commit) : (h.commit outcome).active = h.active := by
  obtain ⟨_, _, _, _, fields⟩ := h.commit_fields outcome
  rw [fields]

@[simp]
theorem commit_streamer (h : Handle) (outcome : Commit) :
    (h.commit outcome).streamer = h.streamer := by
  obtain ⟨_, _, _, _, fields⟩ := h.commit_fields outcome
  rw [fields]

end SpeechClient.Handle
