import SpeechClient.Audio.Buffer
import SpeechClient.Audio.File
import SpeechClient.Session.Reaction

/-!
# Sources of audio

A recognition takes its audio from one of three kinds of source: live audio, a file, or a source
of the application's own, which is known only by what its reads give.
-/

namespace SpeechClient

abbrev ReadOutcome := Except RecognitionError (ReadStatus × Bytes)

/-- A read of a source of the application's own: what it does first, and what it gives. -/
structure OwnRead where
  reaction : Reaction := .done
  outcome : ReadOutcome

structure OwnSource where
  /-- The reads to come; after them there is nothing new. -/
  reads : List OwnRead
  closed : Bool := false

inductive AudioSource where
  | buffer (source : BufferSource)
  | file (source : FileSource)
  | own (source : OwnSource)

namespace AudioSource

def format : AudioSource → AudioFormat
  | .file s => s.format
  | .buffer _ | .own _ => {}

def read : AudioSource → OwnRead × AudioSource
  | .buffer s =>
    let (status, bytes, s) := s.read
    ({ outcome := .ok (status, bytes) }, .buffer s)
  | .file s =>
    let (outcome, s) := s.read
    ({ outcome }, .file s)
  | .own s =>
    if s.closed then ({ outcome := .ok (.endOfStream, []) }, .own s)
    else
      match s.reads with
      | [] => ({ outcome := .ok (.data, []) }, .own s)
      | r :: rest => (r, .own { s with reads := rest })

/-- The recognizer has no more use for the source.  Live audio stays as it is. -/
def close : AudioSource → AudioSource
  | .buffer s => .buffer s
  | .file s => .file s.close
  | .own s => .own { s with closed := true }

def write (bytes : Bytes) : AudioSource → Bool × AudioSource
  | .buffer s =>
    let (accepted, s) := s.write bytes
    (accepted, .buffer s)
  | s => (false, s)

def finish : AudioSource → AudioSource
  | .buffer s => .buffer s.finish
  | s => s

/-- How many reads can give something new before the source has nothing left, or ends. -/
def readsLeft : AudioSource → Nat
  | .buffer s => if s.finished || s.ring.available ≠ 0 then 1 else 0
  | .file s =>
    match s.content with
    | some (.rest bytes) => bytes.length / FileSource.blockSize + 2
    | _ => 1
  | .own s => if s.closed then 1 else s.reads.length

end AudioSource

end SpeechClient
