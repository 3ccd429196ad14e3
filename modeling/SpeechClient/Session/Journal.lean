import SpeechClient.Session.Transition
import SpeechClient.Text.Numeral

/-!
# The journal of a recognizer

A listener that writes a line for everything it is told.
-/

namespace SpeechClient

inductive Severity where
  | info
  | error
  deriving DecidableEq, Repr

def Severity.name : Severity → String
  | .info => "INFO"
  | .error => "ERROR"

def Notification.journalLine : Notification → Severity × String
  | .listening => (.info, "👂 Server is listening")
  | .speechStart time => (.info, "🗣️ Speech started at " ++ Numeral.ofInt time ++ "ms")
  | .speechStop time => (.info, "🤐 Speech stopped at " ++ Numeral.ofInt time ++ "ms")
  | .interim r =>
    (.info, "📝 Partial [" ++ Numeral.ofInt r.segment.toInt ++ "]: '" ++ r.text ++ "'")
  | .result r => (.info, "✅ Result " ++ r.code.name ++ ": '" ++ r.bestText?.getD "" ++ "'")
  | .error e =>
    (.error, "❌ Recognition error (" ++ Vocabulary.name e.code ++ "): " ++ e.message)

end SpeechClient
