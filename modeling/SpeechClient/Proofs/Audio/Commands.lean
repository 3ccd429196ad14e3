import SpeechClient.Audio.Source
import SpeechClient.Proofs.Audio.Queue

/-!
# What is done to a source

A source is read, written to, told that no more audio comes, and closed, in any order.  Once nothing
can be read from it any more, this stays so; a close brings a source there unless it is live audio
with something left.

- `AudioSource.Command`, `AudioSource.after`, `AudioSource.outcomes`: what is done to a source, what
  becomes of it, and what the reads give.
- `AudioSource.Exhausted`: nothing can be read any more.
- `AudioSource.exhausted_close_iff`: what a close leaves to be read.
- `AudioSource.outcomes_of_buffer`: live audio does not notice that it is closed.
-/

namespace SpeechClient.AudioSource

inductive Command where
  | read
  | write (bytes : Bytes)
  | finish
  | close
  deriving DecidableEq, Repr

def perform (s : AudioSource) : Command → AudioSource
  | .read => s.read.2
  | .write bytes => (s.write bytes).2
  | .finish => s.finish
  | .close => s.close

def after (s : AudioSource) (commands : List Command) : AudioSource :=
  commands.foldl perform s

def outcomes (s : AudioSource) : List Command → List ReadOutcome
  | [] => []
  | .read :: rest => s.read.1.outcome :: (s.perform .read).outcomes rest
  | command :: rest => (s.perform command).outcomes rest

def Exhausted : AudioSource → Prop
  | .buffer s => s.finished = true ∧ s.ring.queue = []
  | .file s => s.content = none
  | .own s => s.closed = true

variable {s : AudioSource}

theorem Exhausted.read (exhausted : s.Exhausted) :
    s.read = ({ outcome := .ok (.endOfStream, []) }, s.read.2) ∧ s.read.2.Exhausted := by
  cases s with
  | buffer s =>
    obtain ⟨finished, empty⟩ := exhausted
    simp [AudioSource.read, BufferSource.read, Ring.readAll, Exhausted, finished, empty]
  | file s =>
    have closed : s.content = none := exhausted
    simp [AudioSource.read, FileSource.read, Exhausted, closed]
  | own s =>
    have closed : s.closed = true := exhausted
    simp [AudioSource.read, Exhausted, closed]

/-- Nothing can be done to a source that would bring something to read. -/
theorem Exhausted.perform (exhausted : s.Exhausted) (command : Command) :
    (s.perform command).Exhausted := by
  cases command with
  | read => exact exhausted.read.2
  | write bytes =>
    cases s with
    | buffer s =>
      have refused : s.write bytes = (false, s) := by simp [BufferSource.write, exhausted.1]
      simpa [AudioSource.perform, write, refused] using exhausted
    | _ => exact exhausted
  | finish =>
    cases s with
    | buffer s => exact ⟨rfl, exhausted.2⟩
    | _ => exact exhausted
  | close =>
    cases s with
    | buffer s => exact exhausted
    | file s => rfl
    | own s => rfl

theorem Exhausted.after (exhausted : s.Exhausted) (commands : List Command) :
    (s.after commands).Exhausted := by
  induction commands generalizing s with
  | nil => exact exhausted
  | cons command rest later => exact later (exhausted.perform command)

theorem Exhausted.outcomes (exhausted : s.Exhausted) (commands : List Command) :
    ∀ outcome ∈ s.outcomes commands, outcome = .ok (.endOfStream, []) := by
  induction commands generalizing s with
  | nil => exact List.forall_mem_nil _
  | cons command rest later =>
    have later := later (exhausted.perform command)
    cases command with
    | read => exact List.forall_mem_cons.2 ⟨by rw [exhausted.read.1], later⟩
    | _ => exact later

theorem length_outcomes (s : AudioSource) (commands : List Command) :
    (s.outcomes commands).length = commands.count .read := by
  induction commands generalizing s with
  | nil => rfl
  | cons command rest later =>
    cases command with
    | read => simp [AudioSource.outcomes, later]
    | _ => simpa [AudioSource.outcomes] using later _

theorem Exhausted.outcomes_eq (exhausted : s.Exhausted) (commands : List Command) :
    s.outcomes commands = List.replicate (commands.count .read) (.ok (.endOfStream, [])) :=
  List.eq_replicate_iff.2 ⟨length_outcomes s commands, exhausted.outcomes commands⟩

/-- What a read of live audio gives. -/
theorem read_buffer (live : BufferSource) : (AudioSource.buffer live).read.1 =
    { outcome := .ok (if live.finished then .endOfStream else .data, live.ring.queue) } := rfl

theorem exhausted_close_iff : s.close.Exhausted ↔
    ∀ live, s = .buffer live → live.finished = true ∧ live.ring.queue = [] := by
  cases s with
  | buffer live => simp [close, Exhausted]
  | file s => simp [close, FileSource.close, Exhausted]
  | own s => simp [close, Exhausted]

/-- After a close it shows in the next read already whether anything is left. -/
theorem exhausted_of_outcomes
    (ended : ∀ outcome ∈ s.close.outcomes [.read], outcome = .ok (.endOfStream, [])) :
    s.close.Exhausted := by
  refine exhausted_close_iff.2 ?_
  rintro live rfl
  have next := ended _ List.mem_cons_self
  change (AudioSource.buffer live).read.1.outcome = _ at next
  rw [read_buffer] at next
  simpa using next

theorem outcomes_of_buffer (live : BufferSource) (commands : List Command) :
    (AudioSource.buffer live).outcomes commands =
      (AudioSource.buffer live).outcomes (commands.filter (· ≠ .close)) := by
  induction commands generalizing live with
  | nil => rfl
  | cons command rest later =>
    cases command with
    | read => exact congrArg (List.cons _) (later _)
    | write bytes => exact later _
    | finish => exact later _
    | close => exact later live

end SpeechClient.AudioSource
