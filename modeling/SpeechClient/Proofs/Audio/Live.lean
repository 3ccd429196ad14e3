import SpeechClient.Audio.Buffer
import SpeechClient.Proofs.Audio.Queue

/-!
# Live audio is passed on as it comes

Audio is written to a live source, read from it, and at some time said to be all, in any order.
Whatever the source takes waits in its ring and is read once, in order; what does not fit is not
taken, and nothing is taken any more once the audio is said to be all.  From then on every read says
that the stream ends, and the first one brings what still waits.

- `BufferSource.Command`, `BufferSource.Answer`, `BufferSource.run`: what is done to the source, one
  thing after another.
- `BufferSource.taken`, `BufferSource.intake`: what it takes of what is written.
- `BufferSource.perform_audio`, `BufferSource.run_audio`: reads give what was taken.
- `BufferSource.run_conserves_audio`: all of it for a new source.
-/

namespace SpeechClient.BufferSource

inductive Command where
  | write (bytes : Bytes)
  | read
  | finish
  deriving DecidableEq, Repr

inductive Answer where
  | written (accepted : Bool)
  | read (status : ReadStatus) (bytes : Bytes)
  | finished
  deriving DecidableEq, Repr

def perform (s : BufferSource) : Command → Answer × BufferSource
  | .write bytes =>
    let (accepted, s) := s.write bytes
    (.written accepted, s)
  | .read =>
    let (status, bytes, s) := s.read
    (.read status bytes, s)
  | .finish => (.finished, s.finish)

def run (s : BufferSource) : List Command → List Answer × BufferSource
  | [] => ([], s)
  | command :: rest =>
    let (answer, s) := s.perform command
    let (answers, s) := s.run rest
    (answer :: answers, s)

def Answer.audio : Answer → Bytes
  | .read _ bytes => bytes
  | _ => []

/-- What the source takes of the octets if they are written now: those that fit, if it says that it
has taken them. -/
def taken (s : BufferSource) (bytes : Bytes) : Bytes :=
  if (s.write bytes).1 then bytes.take (min bytes.length s.ring.free) else []

def intake (s : BufferSource) : List Command → Bytes
  | [] => []
  | .write bytes :: rest => s.taken bytes ++ (s.write bytes).2.intake rest
  | command :: rest => (s.perform command).2.intake rest

variable (s : BufferSource)

/-! ## One command -/

@[simp] theorem accepted_write (bytes : Bytes) : (s.write bytes).1 = !s.finished := by
  unfold write
  split <;> simp_all

theorem taken_eq (bytes : Bytes) : s.taken bytes =
    if s.finished then [] else bytes.take (min bytes.length s.ring.free) := by
  rw [taken, accepted_write]
  cases s.finished with
  | true => rfl
  | false => rfl

theorem queue_write (bytes : Bytes) :
    (s.write bytes).2.ring.queue = s.ring.queue ++ s.taken bytes := by
  cases finished : s.finished with
  | true => simp [taken, write, finished]
  | false => simp [taken, write, finished, Ring.queue_write, Ring.accepted]

@[simp] theorem queue_read : s.read.2.2.ring.queue = [] :=
  Ring.queue_drained _

theorem status_read : s.read.1 = .endOfStream ↔ s.finished = true := by
  simp only [read]
  cases s.finished with
  | true => simp
  | false => simp

@[simp] theorem finished_perform (command : Command) :
    (s.perform command).2.finished = (s.finished || command = .finish) := by
  cases command with
  | write bytes =>
    simp only [perform, write]
    split <;> simp_all
  | read => simp [perform, read]
  | finish => simp [perform, finish]

@[simp] theorem capacity_perform (command : Command) :
    (s.perform command).2.ring.capacity = s.ring.capacity := by
  cases command with
  | write bytes =>
    simp only [perform, write]
    split
    · rfl
    · exact Ring.capacity_write ..
  | _ => rfl

/-- What comes out and what waits then make up what waited and what is taken. -/
theorem perform_audio (command : Command) :
    (s.perform command).1.audio ++ (s.perform command).2.ring.queue =
      s.ring.queue ++ s.intake [command] := by
  cases command with
  | write bytes => simp [perform, Answer.audio, intake, queue_write]
  | read =>
    have none : s.read.2.2.ring.queue = [] := s.queue_read
    change s.ring.queue ++ s.read.2.2.ring.queue = s.ring.queue ++ []
    rw [none]
  | finish => simp [perform, Answer.audio, intake, finish]

theorem intake_cons (command : Command) (rest : List Command) :
    s.intake (command :: rest) = s.intake [command] ++ (s.perform command).2.intake rest := by
  cases command <;> simp [intake, perform]

/-! ## Any number of commands -/

theorem run_audio (commands : List Command) :
    (s.run commands).1.flatMap Answer.audio ++ (s.run commands).2.ring.queue =
      s.ring.queue ++ s.intake commands := by
  induction commands generalizing s with
  | nil => simp [run, intake]
  | cons command rest after =>
    have first := s.perform_audio command
    have later := after (s.perform command).2
    calc (s.run (command :: rest)).1.flatMap Answer.audio ++ (s.run (command :: rest)).2.ring.queue
        = (s.perform command).1.audio ++ (((s.perform command).2.run rest).1.flatMap Answer.audio ++
            ((s.perform command).2.run rest).2.ring.queue) := by
          simp only [run, List.flatMap_cons, List.append_assoc]
      _ = ((s.perform command).1.audio ++ (s.perform command).2.ring.queue) ++
            (s.perform command).2.intake rest := by
          rw [later, List.append_assoc]
      _ = s.ring.queue ++ s.intake (command :: rest) := by
          rw [first, s.intake_cons command rest, List.append_assoc]

theorem finished_run (commands : List Command) :
    (s.run commands).2.finished = (s.finished || Command.finish ∈ commands) := by
  induction commands generalizing s with
  | nil => simp [run]
  | cons command rest after =>
    simp only [run, after, finished_perform, List.mem_cons, eq_comm (a := Command.finish)]
    simp [Bool.or_assoc]

@[simp] theorem capacity_run (commands : List Command) :
    (s.run commands).2.ring.capacity = s.ring.capacity := by
  induction commands generalizing s with
  | nil => rfl
  | cons command rest after => simp only [run, after, capacity_perform]

theorem run_append (first later : List Command) :
    (s.run (first ++ later)).2 = ((s.run first).2.run later).2 := by
  induction first generalizing s with
  | nil => rfl
  | cons command rest after => exact after _

/-- Once the audio is said to be all, what waits is there until it is read. -/
theorem queue_run_of_finished (finished : s.finished = true) (commands : List Command) :
    (s.run commands).2.ring.queue = if .read ∈ commands then [] else s.ring.queue := by
  induction commands generalizing s with
  | nil => simp [run]
  | cons command rest after =>
    have still : (s.perform command).2.finished = true := by simp [finished]
    have later := after (s.perform command).2 still
    cases command with
    | write bytes =>
      have refused : s.write bytes = (false, s) := by simp [write, finished]
      simpa [run, perform, refused] using later
    | read => simpa [run, perform] using later
    | finish => simpa [run, perform, finish] using later

theorem queue_run_finish (before later : List Command) :
    (s.run (before ++ .finish :: later)).2.ring.queue =
      if .read ∈ later then [] else (s.run before).2.ring.queue := by
  rw [run_append]
  exact queue_run_of_finished _ rfl later

/-- However a new source has been used: what was read from it and what waits in it is what it took,
in order.  A write is accepted if and only if the audio was not said to be all, and then the source
takes the octets that there is room for, one less than it has cells, and otherwise none.  A read
gives all that waits, and says that the stream ends if and only if the audio was said to be all;
then it gives what waited when that was first said, unless that was read before. -/
theorem run_conserves_audio (capacity : Nat) (commands : List Command) :
    let room := max capacity 1 - 1
    let (answers, s) := (ofCapacity capacity).run commands
    answers.flatMap Answer.audio ++ s.ring.queue = (ofCapacity capacity).intake commands ∧
    s.ring.queue.length ≤ room ∧
    (∀ bytes,
      ((s.write bytes).1 = true ↔ .finish ∉ commands) ∧
      (s.write bytes).2.ring.queue = s.ring.queue ++ s.taken bytes ∧
      s.taken bytes = if .finish ∈ commands then []
        else bytes.take (min bytes.length (room - s.ring.queue.length))) ∧
    (s.read.1 = .endOfStream ↔ .finish ∈ commands) ∧
    s.read.2.1 = s.ring.queue ∧
    s.read.2.2.ring.queue = [] ∧
    ∀ before later, commands = before ++ .finish :: later →
      s.read.2.1 =
        if .read ∈ later then [] else ((ofCapacity capacity).run before).2.ring.queue := by
  intro room
  have audio := (ofCapacity capacity).run_audio commands
  have finished := (ofCapacity capacity).finished_run commands
  have size : ((ofCapacity capacity).run commands).2.ring.capacity = max capacity 1 := by
    rw [capacity_run]
    exact Array.size_replicate
  have ended : ∀ before later, commands = before ++ .finish :: later →
      ((ofCapacity capacity).run commands).2.ring.queue =
        if .read ∈ later then [] else ((ofCapacity capacity).run before).2.ring.queue := by
    rintro before later rfl
    exact (ofCapacity capacity).queue_run_finish before later
  have new : (ofCapacity capacity).ring.queue = [] := Ring.queue_ofCapacity capacity
  rw [new, List.nil_append] at audio
  generalize (ofCapacity capacity).run commands = result at audio finished size ended
  obtain ⟨answers, s⟩ := result
  dsimp only at audio finished size ended ⊢
  have said : s.finished = true ↔ .finish ∈ commands := by
    simp [finished, ofCapacity]
  -- One cell stays empty; the others hold what waits or are free.
  have free := s.ring.free_eq
  have cells := s.ring.available_add_free
  rw [size] at free cells
  refine ⟨audio, ?_, fun bytes => ⟨?_, s.queue_write bytes, ?_⟩, s.status_read.trans said, rfl,
    s.queue_read, ended⟩
  · rw [Ring.length_queue]
    omega
  · rw [accepted_write, ← said, Bool.not_eq_true', Bool.not_eq_true]
  · rw [taken_eq, free]
    by_cases finish : Command.finish ∈ commands
    · rw [if_pos (said.mpr finish), if_pos finish]
    · rw [if_neg (mt said.mp finish), if_neg finish]

/-- More is written than there is room for, and the end comes with the octets that wait. -/
example :
    ((ofCapacity 4).run
      [.write [1, 2], .write [3, 4, 5], .finish, .write [6], .read, .read]).1 =
      [.written true, .written true, .finished, .written false, .read .endOfStream [1, 2, 3],
        .read .endOfStream []] := by
  decide

end SpeechClient.BufferSource
