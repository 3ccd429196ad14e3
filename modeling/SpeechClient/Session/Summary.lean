import SpeechClient.Session.Transition
import SpeechClient.Text.Quoted

/-!
# Sessions as a reader of logs sees them

The state of a recognizer and the effects of an event, each on one line.
-/

namespace SpeechClient

def recordText (name : String) (fields : List (String × String)) : String :=
  name ++ " \x7b " ++
    String.intercalate ", " (fields.map fun (field, value) => field ++ ": " ++ value) ++ " \x7d"

def caseText (name value : String) : String :=
  name ++ "(" ++ value ++ ")"

namespace Wire.FrameError

def summary : FrameError → String
  | .invalidCharacter byte offset =>
    recordText "InvalidCharacter" [("byte", toString byte.toNat), ("offset", toString offset)]
  | .unexpectedToken expected offset =>
    recordText "UnexpectedToken"
      [("expected", Text.quoted expected.words), ("offset", toString offset)]
  | .missingStatusLine => "MissingStatusLine"
  | .invalidContentLength value => caseText "InvalidContentLength" (Text.quoted value.text)
  | .truncatedBody expected actual =>
    recordText "TruncatedBody" [("expected", toString expected), ("actual", toString actual)]
  | .missingHeader key => caseText "MissingHeader" (Text.quoted key.text)
  | .invalidBody detail => caseText "InvalidBody" (Text.quoted detail)

end Wire.FrameError

namespace RecognitionError

def summary : RecognitionError → String
  | .protocolFailure method code message =>
    recordText "ProtocolFailure"
      [("method", Text.quoted method), ("code", Text.quoted code),
        ("message", Text.quoted message)]
  | .connectionFailure reason => caseText "ConnectionFailure" (Text.quoted reason)
  | .activeRecognition => "ActiveRecognition"
  | .timeout wait => caseText "Timeout" wait.text
  | .invalidLanguageModel => "InvalidLanguageModel"
  | .audio reason => caseText "Audio" (Text.quoted reason)
  | .config reason => caseText "Config" (Text.quoted reason)
  | .protocol error => caseText "Protocol" error.summary

end RecognitionError

def Handle.summary (h : Handle) : String :=
  recordText "RecognitionHandle"
    [("state", h.state.label), ("active", toString h.active),
      ("recognizing", toString h.recognizing), ("cancel_pending", toString h.cancelPending),
      ("results", toString h.results.length),
      ("error", (h.error.map fun e => caseText "Some" e.summary).getD "None"),
      ("streaming", toString h.streamer.isSome)]

def Effect.summary? : Effect → Option String
  | .send frame => some (caseText "Send" frame.command.text)
  | .startStreaming _ => some "StartStreaming"
  | .notify _ | .commit _ => none

end SpeechClient
