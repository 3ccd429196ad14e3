import SpeechClient.Json.Read
import SpeechClient.Result.Decode
import SpeechClient.Session.State
import SpeechClient.Settings.Basic
import SpeechClient.Wire.Frame

/-!
# Inbound events

What a frame from the server means.  A frame is classified by its command alone; header values are
read without the spaces around them.
-/

namespace SpeechClient

open Wire

/-- What a result says about the running recognition. -/
inductive Outcome where
  | canceled
  | final (result : SegmentResult) (lastSegment : Bool)
  | interim (result : PartialResult)
  deriving DecidableEq, Repr

/-- A frame that means something to the client. -/
inductive Inbound where
  | response (method result : Bytes) (status : Option SessionState) (errorCode message : Bytes)
  /-- News of the running recognition; `idle` says that the session has gone idle. -/
  | result (idle : Bool) (outcome : Outcome)
  | speechStart (time : Int)
  | speechStop (time : Int)
  deriving DecidableEq, Repr

namespace Inbound

/-- A header value without the spaces around it; a missing one is empty. -/
def headerValue (f : Frame) (key : Bytes) : Bytes :=
  ((f.header? key).getD []).trimSpaces

/-- The session status that a reply carries, unless it is none. -/
def replyStatus (f : Frame) : Option SessionState :=
  (SessionState.ofName? (headerValue f Key.sessionStatus).text).filter (· ≠ .none)

def ofResponse (f : Frame) : Inbound :=
  .response (headerValue f Key.method) (headerValue f Key.result) (replyStatus f)
    (headerValue f Key.errorCode) (headerValue f Key.message)

/-- A truth value in the body of a result, which the older protocol does not look at. -/
def flag (protocol : ServerProtocol) (name : String) (absent : Bool) (j : Json) : Bool :=
  match protocol with
  | .current => ((j.get? name).bind Json.asBool?).getD absent
  | .legacy => absent

def outcomeOfBody (protocol : ServerProtocol) (status : String) (j : Json) : Outcome :=
  if flag protocol "final_result" (status == ResultCode.recognized.name) j then
    let last := flag protocol "last_segment" true j
    .final { SegmentResult.ofJson j status with lastSegment := last } last
  else .interim (.ofJson j)

/-- The outcome that a result reports.  A canceled recognition and an empty body need no reading;
any other body must be JSON. -/
def outcomeOf (protocol : ServerProtocol) (f : Frame) : Except FrameError Outcome :=
  let status := (headerValue f Key.resultStatus).text
  if status == ResultCode.canceled.name then .ok .canceled
  else if f.body.isEmpty then .ok (.final (.ofStatus status) true)
  else
    match Json.parse f.body with
    | some j => .ok (outcomeOfBody protocol status j)
    | none => .error (.invalidBody "not a JSON text")

def ofResult (protocol : ServerProtocol) (f : Frame) : Except FrameError Inbound :=
  let idle := (headerValue f Key.sessionStatus).text == SessionState.idle.name
  (outcomeOf protocol f).map fun outcome => .result idle outcome

/-- The time that a frame carries; a missing or unreadable one is zero. -/
def speechTime (f : Frame) : Int :=
  (Numeral.int64? (headerValue f Key.timestamp)).getD 0

def classify (protocol : ServerProtocol) (f : Frame) : Option (Except FrameError Inbound) :=
  match f.method? with
  | some .response => some (.ok (ofResponse f))
  | some .recognitionResult => some (ofResult protocol f)
  | some .startOfSpeech => some (.ok (.speechStart (speechTime f)))
  | some .endOfSpeech => some (.ok (.speechStop (speechTime f)))
  | _ => none

end Inbound

end SpeechClient
