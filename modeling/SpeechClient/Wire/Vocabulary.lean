import SpeechClient.Text.Bytes
import SpeechClient.Text.Vocabulary

/-!
# The words of the protocol

Commands, response results, header names and content types, as they are spelled on the wire.
-/

namespace SpeechClient.Wire

def keyword : Bytes := [0x41, 0x53, 0x52]

/-- The protocol version written on every outbound status line: `2.4`. -/
def protocolVersion : Bytes := [0x32, 0x2e, 0x34]

inductive Method where
  | createSession
  | setParameters
  | getParameters
  | startRecognition
  | startInputTimers
  | sendAudio
  | cancelRecognition
  | releaseSession
  | response
  | startOfSpeech
  | endOfSpeech
  | recognitionResult
  deriving DecidableEq, Repr

instance : Vocabulary Method where
  all := [.createSession, .setParameters, .getParameters, .startRecognition, .startInputTimers,
    .sendAudio, .cancelRecognition, .releaseSession, .response, .startOfSpeech, .endOfSpeech,
    .recognitionResult]
  name
    | .createSession => "CREATE_SESSION"
    | .setParameters => "SET_PARAMETERS"
    | .getParameters => "GET_PARAMETERS"
    | .startRecognition => "START_RECOGNITION"
    | .startInputTimers => "START_INPUT_TIMERS"
    | .sendAudio => "SEND_AUDIO"
    | .cancelRecognition => "CANCEL_RECOGNITION"
    | .releaseSession => "RELEASE_SESSION"
    | .response => "RESPONSE"
    | .startOfSpeech => "START_OF_SPEECH"
    | .endOfSpeech => "END_OF_SPEECH"
    | .recognitionResult => "RECOGNITION_RESULT"

def Method.name (m : Method) : String := Vocabulary.name m

def Method.octets (m : Method) : Bytes := utf8 m.name

def Method.ofOctets? (b : Bytes) : Option Method := Vocabulary.ofName? Method b.text

inductive Verdict where
  | success
  | failure
  | invalidAction
  deriving DecidableEq, Repr

instance : Vocabulary Verdict where
  all := [.success, .failure, .invalidAction]
  name
    | .success => "SUCCESS"
    | .failure => "FAILURE"
    | .invalidAction => "INVALID_ACTION"

def Verdict.ofOctets? (b : Bytes) : Option Verdict := Vocabulary.ofName? Verdict b.text

/-! ## Header names -/

namespace Key

def method : Bytes := utf8 "Method"
def result : Bytes := utf8 "Result"
def sessionStatus : Bytes := utf8 "Session-Status"
def errorCode : Bytes := utf8 "Error-Code"
def message : Bytes := utf8 "Message"
def resultStatus : Bytes := utf8 "Result-Status"
def contentLength : Bytes := utf8 "Content-Length"
def contentType : Bytes := utf8 "Content-Type"
def contentId : Bytes := utf8 "Content-ID"
def accept : Bytes := utf8 "Accept"
def userAgent : Bytes := utf8 "User-Agent"
def lastPacket : Bytes := utf8 "LastPacket"
def timestamp : Bytes := utf8 "Timestamp"

end Key

/-! ## Content types -/

namespace ContentType

def uriList : Bytes := utf8 "text/uri-list"
def srgs : Bytes := utf8 "application/srgs"
def json : Bytes := utf8 "application/json"
def octetStream : Bytes := utf8 "application/octet-stream"

end ContentType

end SpeechClient.Wire
