import SpeechClient.Text.Duration
import SpeechClient.Text.Vocabulary
import SpeechClient.Wire.Error

/-!
# Why a recognition fails

The failures that listeners and callers are told of, the coarse code of each, and the sentence
that reports it.
-/

namespace SpeechClient

inductive RecognitionError where
  /-- The server refused a request. -/
  | protocolFailure (method code message : String)
  /-- The connection could not be made, or was lost. -/
  | connectionFailure (reason : String)
  | activeRecognition
  /-- No outcome within the longest wait. -/
  | timeout (wait : Duration)
  | invalidLanguageModel
  | audio (reason : String)
  | config (reason : String)
  | protocol (error : Wire.FrameError)
  deriving DecidableEq, Repr

inductive ErrorCode where
  | failure
  | sessionTimeout
  | connectionFailure
  | activeRecognition
  deriving DecidableEq, Repr

instance : Vocabulary ErrorCode where
  all := [.failure, .sessionTimeout, .connectionFailure, .activeRecognition]
  name
    | .failure => "FAILURE"
    | .sessionTimeout => "SESSION_TIMEOUT"
    | .connectionFailure => "CONNECTION_FAILURE"
    | .activeRecognition => "ACTIVE_RECOGNITION"

namespace RecognitionError

def code : RecognitionError → ErrorCode
  | .connectionFailure _ => .connectionFailure
  | .activeRecognition => .activeRecognition
  | .timeout _ => .sessionTimeout
  | _ => .failure

/-- The error can come from outside: it is none that only the recognizer itself answers with. -/
def external : RecognitionError → Bool
  | .activeRecognition | .timeout _ | .invalidLanguageModel => false
  | _ => true

def message : RecognitionError → String
  | .protocolFailure method code message =>
    "[" ++ method ++ "]: " ++ code ++ (if message.isEmpty then "" else ": " ++ message)
  | .connectionFailure reason => "Connection failure: " ++ reason
  | .activeRecognition => "Recognition already active"
  | .timeout wait => "Recognition timeout after " ++ wait.text
  | .invalidLanguageModel => "Language model has neither a URI nor a grammar"
  | .audio reason => "Audio source error: " ++ reason
  | .config reason => "Configuration error: " ++ reason
  | .protocol error => "Protocol error: " ++ error.message

end RecognitionError

inductive ConfigError where
  | missingVariable (name : String)
  | invalidUrl (url reason : String)
  deriving DecidableEq, Repr

namespace ConfigError

def message : ConfigError → String
  | .missingVariable name => "Missing required environment variable: " ++ name
  | .invalidUrl url reason => "Invalid server URL " ++ url ++ ": " ++ reason

def toRecognitionError (e : ConfigError) : RecognitionError :=
  .config e.message

end ConfigError

end SpeechClient
