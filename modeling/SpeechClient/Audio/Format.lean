/-!
# Audio formats

What kind of samples a source gives.
-/

namespace SpeechClient

inductive AudioEncoding where
  | raw
  | wav
  deriving DecidableEq, Repr

def AudioEncoding.name : AudioEncoding → String
  | .raw => "Raw"
  | .wav => "Wav"

/-- The samples of a source: eight thousand of sixteen bits a second unless it says otherwise. -/
structure AudioFormat where
  encoding : AudioEncoding := .wav
  sampleRate : Nat := 8000
  bitsPerSample : Nat := 16
  deriving DecidableEq, Repr, Inhabited

def AudioFormat.summary (f : AudioFormat) : String :=
  "AudioFormat \x7b encoding: " ++ f.encoding.name ++ ", sample_rate: " ++ toString f.sampleRate ++
    ", bits_per_sample: " ++ toString f.bitsPerSample ++ " \x7d"

/-- What came with a piece of audio: more may follow, or it was the last. -/
inductive ReadStatus where
  | data
  | endOfStream
  deriving DecidableEq, Repr

def ReadStatus.name : ReadStatus → String
  | .data => "Data"
  | .endOfStream => "EndOfStream"

end SpeechClient
