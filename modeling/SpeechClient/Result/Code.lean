import SpeechClient.Text.Blank
import SpeechClient.Text.Vocabulary

/-!
# Result codes

How a recognition came out, as the server names it.
-/

namespace SpeechClient

inductive ResultCode where
  | processing
  | recognized
  | noMatch
  | noInputTimeout
  | maxSpeech
  | earlySpeech
  | recognitionTimeout
  | noSpeech
  | canceled
  | failure
  deriving DecidableEq, Repr

namespace ResultCode

instance : Vocabulary ResultCode where
  all := [.processing, .recognized, .noMatch, .noInputTimeout, .maxSpeech, .earlySpeech,
    .recognitionTimeout, .noSpeech, .canceled, .failure]
  name
    | .processing => "PROCESSING"
    | .recognized => "RECOGNIZED"
    | .noMatch => "NO_MATCH"
    | .noInputTimeout => "NO_INPUT_TIMEOUT"
    | .maxSpeech => "MAX_SPEECH"
    | .earlySpeech => "EARLY_SPEECH"
    | .recognitionTimeout => "RECOGNITION_TIMEOUT"
    | .noSpeech => "NO_SPEECH"
    | .canceled => "CANCELED"
    | .failure => "FAILURE"

def name (c : ResultCode) : String := Vocabulary.name c

def ofName? (s : String) : Option ResultCode := Vocabulary.ofName? ResultCode s

/-- The code of a finished recognition.  A status that is unknown, or that says the recognition is
still going on, counts as no match. -/
def ofStatus (status : String) : ResultCode :=
  match ofName? (Text.trim status) with
  | some .processing => .noMatch
  | some code => code
  | none => .noMatch

end ResultCode

end SpeechClient
