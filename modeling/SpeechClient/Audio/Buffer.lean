import SpeechClient.Audio.Format
import SpeechClient.Audio.Ring

/-!
# Live audio

Audio that the application pushes while it is recorded, through a ring buffer.
-/

namespace SpeechClient

/-- The ring, and whether the application has said that no more audio will come. -/
structure BufferSource where
  ring : Ring
  finished : Bool := false

namespace BufferSource

def defaultCapacity : Nat := 50000

def ofCapacity (capacity : Nat) : BufferSource :=
  { ring := .ofCapacity capacity }

/-- Queues audio, as much as fits.  A finished source takes none and answers false. -/
def write (s : BufferSource) (bytes : Bytes) : Bool × BufferSource :=
  if s.finished then (false, s) else (true, { s with ring := s.ring.write bytes })

def finish (s : BufferSource) : BufferSource :=
  { s with finished := true }

/-- Everything queued; it is the last if the source is finished. -/
def read (s : BufferSource) : ReadStatus × Bytes × BufferSource :=
  let (bytes, ring) := s.ring.readAll
  (if s.finished then .endOfStream else .data, bytes, { s with ring })

end BufferSource

end SpeechClient
