import SpeechClient.Text.Bytes

/-!
# Ring buffer

A fixed number of cells holds a queue of octets.  One cell always stays empty, so equal marks mean
an empty queue; what does not fit is not taken.

- `Ring.queue`: the octets that wait, oldest first.
- `Ring.write`, `Ring.readInto`, `Ring.readAll`, `Ring.clear`: the operations.
-/

namespace SpeechClient

/-- The cells, the place of the oldest octet and the place of the next one. -/
structure Ring where
  cells : Array UInt8
  readMark : Nat
  writeMark : Nat
  readMark_lt : readMark < cells.size
  writeMark_lt : writeMark < cells.size

namespace Ring

/-- An empty ring; even of capacity zero it has the cell that stays empty. -/
def ofCapacity (capacity : Nat) : Ring where
  cells := Array.replicate (max capacity 1) 0
  readMark := 0
  writeMark := 0
  readMark_lt := by rw [Array.size_replicate]; omega
  writeMark_lt := by rw [Array.size_replicate]; omega

def capacity (r : Ring) : Nat := r.cells.size

def available (r : Ring) : Nat :=
  -- The queue either lies in one stretch or runs around the end of the cells.
  if r.readMark ≤ r.writeMark then r.writeMark - r.readMark
  else r.capacity - (r.readMark - r.writeMark)

def free (r : Ring) : Nat :=
  r.capacity - 1 - r.available

def fetch (r : Ring) (count : Nat) : Bytes :=
  (List.range count).map fun i => r.cells.getD ((r.readMark + i) % r.capacity) 0

/-- The octets that wait, oldest first. -/
def queue (r : Ring) : Bytes :=
  r.fetch r.available

def store (cells : Array UInt8) (place : Nat) : Bytes → Array UInt8
  | [] => cells
  | b :: rest => store (cells.setIfInBounds (place % cells.size) b) (place + 1) rest

@[simp] theorem size_store (cells : Array UInt8) (place : Nat) (bytes : Bytes) :
    (store cells place bytes).size = cells.size := by
  induction bytes generalizing cells place with
  | nil => rfl
  | cons b rest ih => simp [store, ih]

def accepted (r : Ring) (bytes : Bytes) : Nat :=
  min bytes.length r.free

def write (r : Ring) (bytes : Bytes) : Ring where
  cells := store r.cells r.writeMark (bytes.take (r.accepted bytes))
  readMark := r.readMark
  writeMark := (r.writeMark + r.accepted bytes) % r.capacity
  readMark_lt := by simpa using r.readMark_lt
  writeMark_lt := by
    have h := r.writeMark_lt
    rw [size_store]
    exact Nat.mod_lt _ (Nat.lt_of_le_of_lt (Nat.zero_le _) h)

def drop (r : Ring) (count : Nat) : Ring :=
  { r with
    readMark := (r.readMark + count) % r.capacity
    readMark_lt := Nat.mod_lt _ (Nat.lt_of_le_of_lt (Nat.zero_le _) r.writeMark_lt) }

/-- How many octets a reader with room for `room` gets: whole samples of two octets. -/
def readable (r : Ring) (room : Nat) : Nat :=
  let n := min r.available room
  n - n % 2

/-- The oldest octets that make whole samples and fit in `room`, and the ring without them. -/
def read (r : Ring) (room : Nat) : Bytes × Ring :=
  (r.fetch (r.readable room), r.drop (r.readable room))

def overwrite (buffer : Bytes) (place : Nat) : Bytes → Bytes
  | [] => buffer
  | b :: rest => overwrite (buffer.set place b) (place + 1) rest

/-- A read into a buffer of the caller's: how many octets came, and the buffer with them in front. -/
def readInto (r : Ring) (buffer : Bytes) : Nat × Bytes × Ring :=
  let (bytes, r) := r.read buffer.length
  (bytes.length, overwrite buffer 0 bytes, r)

def readAll (r : Ring) : Bytes × Ring :=
  (r.queue, r.drop r.available)

def clear (r : Ring) : Ring :=
  { r with readMark := r.writeMark, readMark_lt := r.writeMark_lt }

def summary (r : Ring) : String :=
  "RingBuffer \x7b capacity: " ++ toString r.capacity ++ ", read_available: " ++
    toString r.available ++ " \x7d"

end Ring

end SpeechClient
