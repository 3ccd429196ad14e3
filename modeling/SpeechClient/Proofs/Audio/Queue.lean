import Mathlib.Data.Nat.ModEq
import SpeechClient.Audio.Ring

/-!
# A ring is a bounded queue

Whatever is asked of a ring, it answers as a list of octets would that takes no more than fit: with
one cell less than it has.  Places are counted around the end of the cells, and the octets that wait
lie at the places from the mark of the oldest one on.

- `Ring.Command`, `Ring.Answer`, `Ring.run`: what can be asked of a ring, one after another.
- `BoundedQueue.run`: the same of a list.
- `Ring.Exact`, `Ring.Unread`: what keeps the marks and the cells in order.
- `Ring.run_eq_boundedQueue`: both answer alike.
-/

namespace SpeechClient

namespace Ring

/-! ## Marks -/

/-- Places that are counted from one place on come round only after all cells. -/
theorem place_inj {size start i j : Nat} (hi : i < size) (hj : j < size)
    (same : (start + i) % size = (start + j) % size) : i = j :=
  (Nat.ModEq.add_left_cancel' start same).eq_of_lt_of_lt hi hj

theorem available_lt (r : Ring) : r.available < r.capacity := by
  have read : r.readMark < r.capacity := r.readMark_lt
  have write : r.writeMark < r.capacity := r.writeMark_lt
  unfold available
  split <;> omega

/-- The next octet goes to the place behind those that wait. -/
theorem writeMark_eq (r : Ring) : r.writeMark = (r.readMark + r.available) % r.capacity := by
  have read : r.readMark < r.capacity := r.readMark_lt
  have write : r.writeMark < r.capacity := r.writeMark_lt
  unfold available
  split
  next stretch => rw [Nat.add_sub_cancel' stretch, Nat.mod_eq_of_lt write]
  next around =>
    have round : r.readMark + (r.capacity - (r.readMark - r.writeMark)) =
        r.writeMark + r.capacity := by omega
    rw [round, Nat.add_mod_right, Nat.mod_eq_of_lt write]

theorem available_eq_of_writeMark {r : Ring} {count : Nat} (fits : count < r.capacity)
    (marked : r.writeMark = (r.readMark + count) % r.capacity) : r.available = count :=
  place_inj r.available_lt fits (r.writeMark_eq.symm.trans marked)

theorem available_add_free (r : Ring) : r.available + r.free + 1 = r.capacity := by
  have few := r.available_lt
  unfold free
  omega

/-! ## Cells -/

@[simp] theorem length_fetch (r : Ring) (count : Nat) : (r.fetch count).length = count := by
  simp [fetch]

@[simp] theorem length_queue (r : Ring) : r.queue.length = r.available :=
  r.length_fetch r.available

theorem getElem_queue (r : Ring) {i : Nat} (bound : i < r.queue.length) :
    r.queue[i] = (r.cells[(r.readMark + i) % r.capacity]?).getD 0 := by
  simp [queue, fetch]

theorem take_queue (r : Ring) {count : Nat} (few : count ≤ r.available) :
    r.queue.take count = r.fetch count := by
  rw [queue, fetch, ← List.map_take, List.take_range, Nat.min_eq_left few, fetch]

theorem store_elsewhere (cells : Array UInt8) (start : Nat) (bytes : Bytes) {place : Nat}
    (elsewhere : ∀ i < bytes.length, (start + i) % cells.size ≠ place) :
    (store cells start bytes)[place]? = cells[place]? := by
  induction bytes generalizing cells start with
  | nil => rfl
  | cons b rest after =>
    have here : start % cells.size ≠ place := by simpa using elsewhere 0 (by simp)
    rw [store, after, Array.getElem?_setIfInBounds_ne here]
    intro i bound
    simpa [Nat.add_assoc, Nat.add_comm 1] using elsewhere (i + 1) (by simpa using bound)

/-- As many octets as there are cells do not get in each other's way. -/
theorem store_at (cells : Array UInt8) (start : Nat) (bytes : Bytes)
    (fits : bytes.length ≤ cells.size) {i : Nat} (bound : i < bytes.length) :
    (store cells start bytes)[(start + i) % cells.size]? = bytes[i]? := by
  induction bytes generalizing cells start i with
  | nil => simp at bound
  | cons b rest after =>
    have fits : rest.length + 1 ≤ cells.size := by simpa using fits
    rw [store]
    cases i with
    | zero =>
      rw [store_elsewhere]
      · have inside : start % cells.size < cells.size := Nat.mod_lt _ (by omega)
        simp [inside]
      · intro j before same
        simp only [Array.size_setIfInBounds, Nat.add_assoc] at same
        have first : 1 + j = 0 := place_inj (by omega) (by omega) same
        omega
    | succ i =>
      have later := after (cells.setIfInBounds (start % cells.size) b) (start + 1)
        (by rw [Array.size_setIfInBounds]; omega) (i := i) (by simpa using bound)
      rw [Array.size_setIfInBounds, Nat.add_assoc, Nat.add_comm 1 i] at later
      rw [later, List.getElem?_cons_succ]

/-! ## What the operations do to the queue -/

theorem accepted_le_length (r : Ring) (bytes : Bytes) : r.accepted bytes ≤ bytes.length :=
  Nat.min_le_left ..

theorem available_add_accepted_lt (r : Ring) (bytes : Bytes) :
    r.available + r.accepted bytes < r.capacity := by
  have all := r.available_add_free
  have few : r.accepted bytes ≤ r.free := Nat.min_le_right ..
  omega

@[simp] theorem capacity_write (r : Ring) (bytes : Bytes) :
    (r.write bytes).capacity = r.capacity :=
  size_store ..

theorem available_write (r : Ring) (bytes : Bytes) :
    (r.write bytes).available = r.available + r.accepted bytes := by
  refine available_eq_of_writeMark ?_ ?_
  · rw [capacity_write]
    exact r.available_add_accepted_lt bytes
  · change (r.writeMark + r.accepted bytes) % r.capacity =
      (r.readMark + (r.available + r.accepted bytes)) % (r.write bytes).capacity
    rw [capacity_write, r.writeMark_eq, Nat.mod_add_mod, Nat.add_assoc]

def Unread (r : Ring) (place : Nat) : Prop :=
  ∃ i < r.available, place = (r.readMark + i) % r.capacity

/-- What is written goes to other places than those of octets that wait. -/
theorem Unread.not_written {r : Ring} {place : Nat} (unread : r.Unread place) (bytes : Bytes) :
    ∀ i < r.accepted bytes, (r.writeMark + i) % r.capacity ≠ place := by
  obtain ⟨j, waits, rfl⟩ := unread
  intro i bound same
  have fits := r.available_add_accepted_lt bytes
  rw [r.writeMark_eq, Nat.mod_add_mod, Nat.add_assoc] at same
  have same : r.available + i = j := place_inj (by omega) (by omega) same
  omega

theorem Unread.kept {r : Ring} {place : Nat} (unread : r.Unread place) (bytes : Bytes) :
    (r.write bytes).cells[place]? = r.cells[place]? := by
  refine store_elsewhere r.cells r.writeMark _ fun i bound => ?_
  exact unread.not_written bytes i (lt_of_lt_of_le bound (List.length_take_le ..))

theorem queue_write (r : Ring) (bytes : Bytes) :
    (r.write bytes).queue = r.queue ++ bytes.take (r.accepted bytes) := by
  have taken : (bytes.take (r.accepted bytes)).length = r.accepted bytes := by
    rw [List.length_take, Nat.min_eq_left (r.accepted_le_length bytes)]
  refine List.ext_getElem ?_ fun i bound _ => ?_
  · rw [List.length_append, length_queue, length_queue, taken, available_write]
  · -- The octet waited before, or it has just been written.
    have cell := (r.write bytes).getElem_queue bound
    have bound : i < r.available + r.accepted bytes := by simpa [available_write] using bound
    rw [cell, capacity_write, List.getElem_append]
    change ((r.write bytes).cells[(r.readMark + i) % r.capacity]?).getD 0 = _
    split
    next before =>
      have unread : r.Unread ((r.readMark + i) % r.capacity) := ⟨i, by simpa using before, rfl⟩
      rw [unread.kept, getElem_queue]
    next behind =>
      have behind : r.available ≤ i := by simpa using behind
      have place : (r.readMark + i) % r.capacity =
          (r.writeMark + (i - r.available)) % r.cells.size := by
        rw [r.writeMark_eq]
        change _ = (_ % r.capacity + _) % r.capacity
        rw [Nat.mod_add_mod, Nat.add_assoc, Nat.add_sub_cancel' behind]
      have fits : (bytes.take (r.accepted bytes)).length ≤ r.cells.size := by
        have few : r.accepted bytes < r.capacity := by
          have fits := r.available_add_accepted_lt bytes
          omega
        rw [taken]
        exact few.le
      have written := store_at r.cells r.writeMark _ fits (i := i - r.available) (by omega)
      rw [place]
      change ((store r.cells r.writeMark _)[_]?).getD 0 = _
      have short : i - r.available < (bytes.take (r.accepted bytes)).length := by omega
      rw [written, List.getElem?_eq_getElem short, Option.getD_some]
      simp only [length_queue]

/-- The octets after the first ones lie where they lay. -/
theorem available_drop {r : Ring} {count : Nat} (few : count ≤ r.available) :
    (r.drop count).available = r.available - count := by
  have all := r.available_lt
  refine available_eq_of_writeMark ?_ ?_
  · change r.available - count < r.capacity
    omega
  · change r.writeMark = ((r.readMark + count) % r.capacity + (r.available - count)) % r.capacity
    rw [Nat.mod_add_mod, Nat.add_assoc, Nat.add_sub_cancel' few, ← r.writeMark_eq]

theorem queue_drop {r : Ring} {count : Nat} (few : count ≤ r.available) :
    (r.drop count).queue = r.queue.drop count := by
  refine List.ext_getElem ?_ fun i bound bound' => ?_
  · rw [List.length_drop, length_queue, length_queue, available_drop few]
  · rw [List.getElem_drop, getElem_queue, getElem_queue]
    change (r.cells[((r.readMark + count) % r.capacity + i) % r.capacity]?).getD 0 = _
    rw [Nat.mod_add_mod, Nat.add_assoc]

/-- Nothing waits once everything is read. -/
@[simp] theorem queue_drained (r : Ring) : (r.drop r.available).queue = [] := by
  rw [queue_drop le_rfl, ← length_queue, List.drop_length]

theorem readable_le_available (r : Ring) (room : Nat) : r.readable room ≤ r.available :=
  (Nat.sub_le ..).trans (Nat.min_le_left ..)

theorem readable_le_room (r : Ring) (room : Nat) : r.readable room ≤ room :=
  (Nat.sub_le ..).trans (Nat.min_le_right ..)

theorem overwrite_eq (front buffer bytes : Bytes) (fits : bytes.length ≤ buffer.length) :
    overwrite (front ++ buffer) front.length bytes =
      front ++ bytes ++ buffer.drop bytes.length := by
  induction bytes generalizing front buffer with
  | nil => simp [overwrite]
  | cons b rest after =>
    cases buffer with
    | nil => simp at fits
    | cons old others =>
      have fits : rest.length ≤ others.length := by simpa using fits
      have later := after (front ++ [b]) others fits
      simpa [overwrite, List.set_append] using later

theorem readInto_eq (r : Ring) (buffer : Bytes) : r.readInto buffer =
    (r.readable buffer.length,
      r.queue.take (r.readable buffer.length) ++ buffer.drop (r.readable buffer.length),
      r.drop (r.readable buffer.length)) := by
  have few := r.readable_le_available buffer.length
  have fits := r.readable_le_room buffer.length
  have put := overwrite_eq [] buffer (r.fetch (r.readable buffer.length)) (by simpa using fits)
  rw [r.take_queue few]
  simpa [readInto, read] using put

theorem queue_clear (r : Ring) : r.clear.queue = [] := by
  have none : r.clear.available = 0 := by simp [available, clear]
  exact List.length_eq_zero_iff.mp (by rw [length_queue, none])

theorem queue_ofCapacity (capacity : Nat) : (ofCapacity capacity).queue = [] := by
  have none : (ofCapacity capacity).available = 0 := rfl
  exact List.length_eq_zero_iff.mp (by rw [length_queue, none])

/-! ## Runs -/

inductive Command where
  | write (bytes : Bytes)
  | read (buffer : Bytes)
  | readAll
  | clear
  deriving DecidableEq, Repr

inductive Answer where
  /-- So many octets were taken. -/
  | taken (count : Nat)
  /-- So many octets came, and the buffer is this now. -/
  | filled (count : Nat) (buffer : Bytes)
  | drained (bytes : Bytes)
  | cleared
  deriving DecidableEq, Repr

def perform (r : Ring) : Command → Answer × Ring
  | .write bytes => (.taken (r.accepted bytes), r.write bytes)
  | .read buffer =>
    let (count, buffer, r) := r.readInto buffer
    (.filled count buffer, r)
  | .readAll =>
    let (bytes, r) := r.readAll
    (.drained bytes, r)
  | .clear => (.cleared, r.clear)

def run (r : Ring) : List Command → List Answer × Ring
  | [] => ([], r)
  | command :: rest =>
    let (answer, r) := r.perform command
    let (answers, r) := r.run rest
    (answer :: answers, r)

end Ring

namespace BoundedQueue

open SpeechClient.Ring (Command Answer)

/-- What a queue for at most `room` octets answers, and what becomes of it. -/
def perform (room : Nat) (queue : Bytes) : Command → Answer × Bytes
  | .write bytes =>
    let count := min bytes.length (room - queue.length)
    (.taken count, queue ++ bytes.take count)
  | .read buffer =>
    -- Whole samples of two octets; what lies behind them in the buffer stays.
    let count := min queue.length buffer.length / 2 * 2
    (.filled count (queue.take count ++ buffer.drop count), queue.drop count)
  | .readAll => (.drained queue, [])
  | .clear => (.cleared, [])

def run (room : Nat) (queue : Bytes) : List Command → List Answer × Bytes
  | [] => ([], queue)
  | command :: rest =>
    let (answer, queue) := perform room queue command
    let (answers, queue) := run room queue rest
    (answer :: answers, queue)

end BoundedQueue

namespace Ring

theorem readable_eq (r : Ring) (room : Nat) :
    r.readable room = min r.queue.length room / 2 * 2 := by
  rw [length_queue]
  simp only [readable]
  omega

theorem free_eq (r : Ring) : r.free = r.capacity - 1 - r.queue.length := by
  rw [length_queue, free]

@[simp] theorem capacity_perform (r : Ring) (command : Command) :
    (r.perform command).2.capacity = r.capacity := by
  cases command with
  | write bytes => exact r.capacity_write bytes
  | _ => rfl

/-- One command: the ring answers as the queue in it does, and has the queue in it that is left. -/
theorem perform_eq (r : Ring) (command : Command) :
    BoundedQueue.perform (r.capacity - 1) r.queue command =
      ((r.perform command).1, (r.perform command).2.queue) := by
  cases command with
  | write bytes =>
    have count : min bytes.length (r.capacity - 1 - r.queue.length) = r.accepted bytes := by
      rw [accepted, free_eq]
    simp only [BoundedQueue.perform, perform, count, queue_write]
  | read buffer =>
    have few := r.readable_le_available buffer.length
    simp only [BoundedQueue.perform, perform, readInto_eq, ← readable_eq, queue_drop few]
  | readAll => simp only [BoundedQueue.perform, perform, readAll, queue_drained]
  | clear => simp only [BoundedQueue.perform, perform, queue_clear]

theorem run_eq (r : Ring) (commands : List Command) :
    BoundedQueue.run (r.capacity - 1) r.queue commands =
        ((r.run commands).1, (r.run commands).2.queue) ∧
      (r.run commands).2.capacity = r.capacity := by
  induction commands generalizing r with
  | nil => exact ⟨rfl, rfl⟩
  | cons command rest after =>
    obtain ⟨answers, same⟩ := after (r.perform command).2
    rw [capacity_perform] at answers same
    refine ⟨?_, same⟩
    simp only [BoundedQueue.run, perform_eq, answers, run]

/-- The differences that a ring computes are those of numbers and smaller ones: what was taken away
and what is left make up the whole again. -/
structure Exact (r : Ring) : Prop where
  stretch : r.readMark ≤ r.writeMark → r.readMark + r.available = r.writeMark
  around : r.writeMark < r.readMark → r.available + (r.readMark - r.writeMark) = r.capacity
  free : r.available + r.free + 1 = r.capacity

theorem Exact.of_marks (r : Ring) : r.Exact := by
  have read : r.readMark < r.capacity := r.readMark_lt
  refine ⟨fun stretch => ?_, fun around => ?_, r.available_add_free⟩
  · rw [available, if_pos stretch, Nat.add_sub_cancel' stretch]
  · rw [available, if_neg (Nat.not_le.mpr around)]
    omega

/-- A new ring answers whatever it is asked as a queue does that is empty at first and takes one
octet less than the ring has cells.  All the while the queue has room for what is in it, the ring
knows how much that is and how much is free, the marks are places of cells, the differences are
exact, and no octet that waits is written over. -/
theorem run_eq_boundedQueue (capacity : Nat) (commands : List Command) :
    let size := max capacity 1
    let (answers, r) := (ofCapacity capacity).run commands
    let (expected, queue) := BoundedQueue.run (size - 1) [] commands
    answers = expected ∧ r.queue = queue ∧ queue.length ≤ size - 1 ∧
      r.available = queue.length ∧ r.free = size - 1 - queue.length ∧
      r.cells.size = size ∧ r.readMark < size ∧ r.writeMark < size ∧ r.Exact ∧
      ∀ bytes place, r.Unread place →
        (∀ i < r.accepted bytes, (r.writeMark + i) % size ≠ place) ∧
        (r.write bytes).cells[place]? = r.cells[place]? := by
  intro size
  have new : (ofCapacity capacity).capacity = size := Array.size_replicate
  obtain ⟨answers, same⟩ := (ofCapacity capacity).run_eq commands
  rw [new] at answers same
  rw [queue_ofCapacity] at answers
  generalize (ofCapacity capacity).run commands = result at answers same
  obtain ⟨given, r⟩ := result
  rw [answers]
  dsimp only at same ⊢
  have few := r.available_lt
  have free := r.free_eq
  have read : r.readMark < r.capacity := r.readMark_lt
  have write : r.writeMark < r.capacity := r.writeMark_lt
  rw [same] at few free read write
  refine ⟨rfl, rfl, ?_, r.length_queue.symm, free, same, read, write, .of_marks r, ?_⟩
  · rw [length_queue]
    omega
  · intro bytes place unread
    refine ⟨?_, unread.kept bytes⟩
    have apart := unread.not_written bytes
    rwa [same] at apart

/-- Octets that come in around the end of the cells come out in order. -/
example :
    ((ofCapacity 4).run
      [.write [1, 2, 3], .read [0, 0, 9], .write [4, 5, 6], .readAll]).1 =
      [.taken 3, .filled 2 [1, 2, 9], .taken 2, .drained [3, 4, 5]] := by
  decide

end Ring

end SpeechClient
