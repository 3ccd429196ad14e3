import SpeechClient.Number.Double
import SpeechClient.Result.Code

/-!
# Recognition results

What was heard: for one segment of speech the alternative transcripts, best first, each with its
words in time order.
-/

namespace SpeechClient

structure Interpretation where
  text : String
  confidence : Int32
  deriving DecidableEq, Repr

/-- A word with its place in time, in seconds. -/
structure Word where
  text : String
  confidence : Int32
  startTime : Double
  endTime : Double
  deriving DecidableEq, Repr

structure Alternative where
  text : String
  confidence : Int32
  interpretations : List Interpretation := []
  words : List Word := []
  deriving DecidableEq, Repr

namespace Alternative

def lasts (w : Word) : Bool :=
  !(w.endTime.le w.startTime)

/-- The word does not start before the last of `words`. -/
def follows (words : List Word) (w : Word) : Bool :=
  match words.getLast? with
  | some last => !(w.startTime.lt last.startTime)
  | none => true

def accepts (a : Alternative) (w : Word) : Bool :=
  lasts w && follows a.words w

def pushWord (a : Alternative) (w : Word) : Alternative :=
  if a.accepts w then { a with words := a.words ++ [w] } else a

end Alternative

structure SegmentResult where
  code : ResultCode
  alternatives : List Alternative := []
  /-- Seconds from the start of the audio; minus one if not known. -/
  startTime : Double := .minusOne
  /-- Seconds from the start of the audio; minus one if not known. -/
  endTime : Double := .minusOne
  /-- No further segment follows. -/
  lastSegment : Bool := true
  deriving DecidableEq, Repr

namespace SegmentResult

def ofStatus (status : String) : SegmentResult :=
  { code := .ofStatus status }

/-- The result with one more alternative; with it, no match becomes a recognition. -/
def pushAlternative (r : SegmentResult) (a : Alternative) : SegmentResult :=
  { r with
    code := if r.code = .noMatch then .recognized else r.code
    alternatives := r.alternatives ++ [a] }

def bestText? (r : SegmentResult) : Option String :=
  r.alternatives.head?.map (·.text)

end SegmentResult

/-- What has been heard so far of a segment that is still going on. -/
structure PartialResult where
  text : String := ""
  segment : Int32 := 0
  deriving DecidableEq, Repr

end SpeechClient
