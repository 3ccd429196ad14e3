import SpeechClient.Settings.Parameters
import SpeechClient.Text.Base64
import SpeechClient.Text.Duration

/-!
# Settings of a recognizer

Where the server is, who asks, and how long to wait.
-/

namespace SpeechClient

/-- How the server reports where segments end. -/
inductive ServerProtocol where
  /-- The body of a result may say whether it is final and whether its segment is the last. -/
  | current
  /-- A result is final exactly if its status says recognized, and its segment is the last. -/
  | legacy
  deriving DecidableEq, Repr, Inhabited

def ServerProtocol.name : ServerProtocol → String
  | .current => "Current"
  | .legacy => "Legacy"

structure Credentials where
  user : String
  password : String
  deriving DecidableEq, Repr

def Credentials.authorization (c : Credentials) : String :=
  "Basic " ++ Base64.encode (utf8 (c.user ++ ":" ++ c.password))

structure Settings where
  url : String := ""
  credentials : Option Credentials := none
  userAgent : String := "ASR Client"
  /-- The longest wait for an outcome, from the start of the recognition on. -/
  maxWait : Duration := .ofSeconds 30
  /-- The connection is opened only by the first recognition. -/
  connectOnRecognize : Bool := false
  autoClose : Bool := false
  connectTimeout : Duration := .ofSeconds 10
  pollInterval : Duration := .ofMilliseconds 100
  protocol : ServerProtocol := .current
  /-- Sent after every creation of a session, if given. -/
  parameters : Option Parameters := none
  deriving DecidableEq, Repr

end SpeechClient
