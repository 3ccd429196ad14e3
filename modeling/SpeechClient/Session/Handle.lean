import SpeechClient.LanguageModel
import SpeechClient.Result.Basic
import SpeechClient.Session.State

/-!
# The state of a recognizer

One record holds all that changes while recognitions come and go.
-/

namespace SpeechClient

abbrev SourceId := Nat

structure Streamer where
  thread : Nat
  source : SourceId
  deriving DecidableEq, Repr

structure Handle where
  state : SessionState := .none
  audioSource : Option SourceId := none
  languageModel : Option LanguageModel := none
  /-- The results that nobody has taken yet. -/
  results : List SegmentResult := []
  /-- The first failure that nobody has taken yet. -/
  error : Option RecognitionError := none
  /-- A recognition has begun, and its outcome has not been taken. -/
  active : Bool := false
  /-- A recognition has begun, and has no outcome yet. -/
  recognizing : Bool := false
  /-- The running recognition was asked to stop, and the server has not replied. -/
  cancelPending : Bool := false
  /-- The moment of the last beginning is known. -/
  started : Bool := false
  streamer : Option Streamer := none
  deriving DecidableEq, Repr

namespace Handle

/-- A recognition begins.  Nothing of the one before is left. -/
def begin (h : Handle) (source : SourceId) (model : LanguageModel) : Handle :=
  { h with
    active := true
    recognizing := true
    results := []
    error := none
    started := true
    audioSource := some source
    languageModel := some model }

def finishRecognition (h : Handle) : Handle :=
  { h with recognizing := false, cancelPending := false }

/-- The session and the recognition are forgotten.  Only the streaming thread stays. -/
def reset (h : Handle) : Handle :=
  { streamer := h.streamer }

def stillWaiting (h : Handle) : Bool :=
  h.error.isNone && h.recognizing

/-- The outcome is taken: results, failure and thread are gone from the handle. -/
def takeOutcome (h : Handle) : Handle :=
  { h.finishRecognition with results := [], error := none, active := false, streamer := none }

end Handle

end SpeechClient
