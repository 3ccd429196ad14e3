import SpeechClient.Text.Vocabulary

/-!
# Session status

What the server last said about the session.
-/

namespace SpeechClient

inductive SessionState where
  /-- No session has been made on this connection. -/
  | none
  | idle
  | listening
  | recognizing
  deriving DecidableEq, Repr, Inhabited

namespace SessionState

instance : Vocabulary SessionState where
  all := [.none, .idle, .listening, .recognizing]
  name
    | .none => "NONE"
    | .idle => "IDLE"
    | .listening => "LISTENING"
    | .recognizing => "RECOGNIZING"

def name (s : SessionState) : String := Vocabulary.name s

def ofName? (s : String) : Option SessionState := Vocabulary.ofName? SessionState s

def label : SessionState → String
  | .none => "None"
  | .idle => "Idle"
  | .listening => "Listening"
  | .recognizing => "Recognizing"

/-- Speech is awaited or heard. -/
def inRecognition : SessionState → Bool
  | .listening | .recognizing => true
  | .none | .idle => false

end SessionState

end SpeechClient
