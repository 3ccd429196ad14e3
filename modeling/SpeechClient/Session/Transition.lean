import SpeechClient.Session.Handle
import SpeechClient.Session.Inbound
import SpeechClient.Session.Request

/-!
# Transitions

An inbound event changes the status of the session at once, and says what has to happen next:
frames to send, a stream to start, listeners to tell.  The outcome of the recognition is only
recorded by commits, after the listeners have been told.

- `Handle.transition`: the change of status, and the effects.
- `Handle.commit`: the recording of an outcome.
- `Handle.record`: outcomes in a row, and whether whoever waits is woken.
-/

namespace SpeechClient

open Wire

inductive Notification where
  | listening
  | speechStart (time : Int)
  | speechStop (time : Int)
  | interim (result : PartialResult)
  | result (result : SegmentResult)
  | error (error : RecognitionError)
  deriving DecidableEq, Repr

inductive Commit where
  /-- A result; with the last segment the recognition ends. -/
  | result (result : SegmentResult) (lastSegment : Bool)
  | fail (error : RecognitionError)
  /-- The recognition ended, and its results may have to go. -/
  | finish (discardResults : Bool)
  deriving DecidableEq, Repr

inductive Effect where
  | send (frame : Frame)
  | startStreaming (source : SourceId)
  | notify (notification : Notification)
  | commit (commit : Commit)
  deriving DecidableEq

namespace Handle

/-- The status that a reply carries takes the place of the one known. -/
def adopt (h : Handle) : Option SessionState → Handle
  | some status => { h with state := status }
  | none => h

/-- Listeners are told of a status that says the server listens. -/
def adoptionEffects : Option SessionState → List Effect
  | some .listening => [.notify .listening]
  | _ => []

def startEffect (h : Handle) : Effect :=
  match Request.startRecognition h.languageModel with
  | .ok frame => .send frame
  | .error e => .commit (.fail e)

/-- A recognition that was under way is over on the server. -/
def settleIdle (h : Handle) : Handle :=
  if h.state.inRecognition then { h with state := .idle } else h

/-- The reply to a cancel.  Without a cancel that waits for it, it belongs to a recognition that
has ended, and changes nothing. -/
def onCancelReply (h : Handle) (verdict : Option Verdict) (status : Option SessionState)
    (failure : RecognitionError) : Handle × List Effect :=
  if !h.cancelPending then (h, [])
  else
    -- The cancel has its reply, whatever the reply says.
    let h := { h with cancelPending := false }
    match verdict with
    | some .success | some .invalidAction =>
      ((h.adopt status).settleIdle, adoptionEffects status ++ [.commit (.finish true)])
    | _ => (h, [.commit (.fail failure)])

/-- A session has been created: the parameters are sent next, or the recognition starts. -/
def onSessionCreated (h : Handle) (parameters : Option Parameters) : Handle × List Effect :=
  let h := if h.state = .none then { h with state := .idle } else h
  match parameters with
  | some p => (h, [.send (Request.setParameters p)])
  | none => (h, [h.startEffect])

/-- The recognition has started: the audio is streamed.  A reply without a status means that the
server listens. -/
def onRecognitionStarted (h : Handle) (status : Option SessionState) : Handle × List Effect :=
  let stream := h.audioSource.toList.map Effect.startStreaming
  match status with
  | some _ => (h, stream)
  | none => ({ h with state := .listening }, .notify .listening :: stream)

def onSuccess (h : Handle) (method : Option Method) (status : Option SessionState)
    (parameters : Option Parameters) : Handle × List Effect :=
  let adopted := h.adopt status
  let (h, effects) := match method with
    | some .createSession => adopted.onSessionCreated parameters
    | some .setParameters => (adopted, [adopted.startEffect])
    | some .startRecognition => adopted.onRecognitionStarted status
    | _ => (adopted, [])
  (h, adoptionEffects status ++ effects)

def onResponse (h : Handle) (method result : Bytes) (status : Option SessionState)
    (errorCode message : Bytes) (parameters : Option Parameters) : Handle × List Effect :=
  let verdict := Verdict.ofOctets? result
  let failure := RecognitionError.protocolFailure method.text errorCode.text message.text
  match Method.ofOctets? method with
  | some .cancelRecognition => h.onCancelReply verdict status failure
  | known =>
    if verdict = some .success then h.onSuccess known status parameters
    else (h, [.commit (.fail failure)])

def onResult (h : Handle) (idle : Bool) (outcome : Outcome) : Handle × List Effect :=
  -- Whether speech was awaited is decided by the status before this event.
  let running := h.state.inRecognition
  let h := if idle then { h with state := .idle } else h
  match outcome with
  | .canceled =>
    if running then ({ h with state := .idle }, [.commit (.finish true)]) else (h, [])
  | .final result last =>
    (if last then { h with state := .idle } else h,
      [.notify (.result result), .commit (.result result last)])
  | .interim result => (h, [.notify (.interim result)])

def transition (h : Handle) (event : Inbound) (parameters : Option Parameters) :
    Handle × List Effect :=
  match event with
  | .response method result status errorCode message =>
    h.onResponse method result status errorCode message parameters
  | .result idle outcome => h.onResult idle outcome
  | .speechStart time =>
    (if h.state = .listening then { h with state := .recognizing } else h,
      [.notify (.speechStart time)])
  | .speechStop time => (h, [.notify (.speechStop time)])

/-- The handle with an outcome recorded.  Of several failures the first is kept. -/
def commit (h : Handle) : Commit → Handle
  | .result result last =>
    let h := { h with results := h.results ++ [result] }
    if last then h.finishRecognition else h
  | .fail e => { h.finishRecognition with error := some (h.error.getD e) }
  | .finish discard =>
    let h := if discard then { h with results := [] } else h
    h.finishRecognition

def commitAll (h : Handle) (commits : List Commit) : Handle :=
  commits.foldl commit h

end Handle

/-- Whoever waits for the outcome is woken.  A result with more segments to come is stored only. -/
def Commit.wakes : Commit → Bool
  | .result _ false => false
  | _ => true

/-- The handle with outcomes recorded one after another, and whether that wakes whoever waits. -/
def Handle.record (h : Handle) (commits : List Commit) : Bool × Handle :=
  if commits.isEmpty then (false, h)
  -- Who is woken is decided by the outcomes alone, before any of them is recorded.
  else (commits.any Commit.wakes, h.commitAll commits)

end SpeechClient
