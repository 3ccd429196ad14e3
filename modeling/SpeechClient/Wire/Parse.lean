import SpeechClient.Wire.Frame
import SpeechClient.Wire.Token

/-!
# Reading a frame

A frame is read token by token up to the blank line that ends its head; the body is then cut off
by the declared length.  Any fault rejects the whole frame.
-/

namespace SpeechClient.Wire

def Cursor.read (c : Cursor) : Except FrameError (Token × Cursor) :=
  match c.next with
  | (.ok t, c') => .ok (t, c')
  | (.error e, _) => .error e

def Cursor.readIdentifier (c : Cursor) (expected : Expectation) :
    Except FrameError (Bytes × Cursor) :=
  match c.read with
  | .error e => .error e
  | .ok (.identifier run, c') => .ok (run, c')
  | .ok (_, c') => .error (.unexpectedToken expected c'.offset)

def Cursor.readValue (c : Cursor) : Except FrameError (Bytes × Token × Cursor) :=
  match c.read with
  | .error e => .error e
  | .ok (.identifier value, c') => c'.read.map fun (t, c'') => (value, t, c'')
  | .ok (.keyword, c') => c'.read.map fun (t, c'') => (keyword, t, c'')
  | .ok (t, c') => .ok ([], t, c')

/-- The rest of a header line after its key: the colon, the value and what ends the line. -/
def Cursor.readAfterKey (c : Cursor) : Except FrameError (Bytes × Token × Cursor) :=
  match c.read with
  | .error e => .error e
  | .ok (.separator, c') => c'.readValue
  | .ok (_, c') => .error (.unexpectedToken .headerColon c'.offset)

theorem Cursor.read_le {c c' : Cursor} {t : Token} (h : c.read = .ok (t, c')) :
    c'.rest.length ≤ c.rest.length := by
  have hle := c.next_le
  unfold Cursor.read at h
  split at h
  next _ _ hn => cases h; rw [hn] at hle; exact hle
  next => cases h

theorem Cursor.read_lt {c c' : Cursor} {t : Token} (h : c.read = .ok (t, c'))
    (ht : t ≠ .endOfInput) : c'.rest.length < c.rest.length := by
  unfold Cursor.read at h
  split at h
  next _ _ hn =>
    cases h
    have := Cursor.next_lt (c := c) (t := t) (by rw [hn]) ht
    rwa [hn] at this
  next => cases h

theorem Cursor.readValue_le {c c' : Cursor} {v : Bytes} {t : Token}
    (h : c.readValue = .ok (v, t, c')) : c'.rest.length ≤ c.rest.length := by
  have after : ∀ {d : Cursor} {w : Bytes},
      (d.read.map fun (t, c'') => (w, t, c'')) = .ok (v, t, c') →
        c'.rest.length ≤ d.rest.length := by
    intro d w hd
    cases hr : d.read with
    | error e => simp [hr, Except.map] at hd
    | ok p =>
      obtain ⟨t', c''⟩ := p
      simp only [hr, Except.map, Except.ok.injEq, Prod.mk.injEq] at hd
      obtain ⟨rfl, rfl, rfl⟩ := hd
      exact Cursor.read_le hr
  unfold Cursor.readValue at h
  split at h
  · cases h
  next hr => exact Nat.le_trans (after h) (Cursor.read_le hr)
  next hr => exact Nat.le_trans (after h) (Cursor.read_le hr)
  next hr => cases h; exact Cursor.read_le hr

theorem Cursor.readAfterKey_le {c c' : Cursor} {v : Bytes} {t : Token}
    (h : c.readAfterKey = .ok (v, t, c')) : c'.rest.length ≤ c.rest.length := by
  unfold Cursor.readAfterKey at h
  split at h
  · cases h
  next hr => exact Nat.le_trans (Cursor.readValue_le h) (Cursor.read_le hr)
  · cases h

def Cursor.skipLineBreaks (c : Cursor) : Except FrameError (Token × Cursor) :=
  match _hread : c.read with
  | .error e => .error e
  | .ok (.lineBreak, c') => c'.skipLineBreaks
  | .ok (t, c') => .ok (t, c')
termination_by c.rest.length
decreasing_by exact Cursor.read_lt _hread nofun

/-- The header lines from a cursor on, added to `headers`, up to the blank line or the end of the
input.  With a blank line comes the octets after it. -/
def Cursor.readHeaders (c : Cursor) (headers : Headers) :
    Except FrameError (Headers × Option Bytes) :=
  match _hkey : c.read with
  | .error e => .error e
  | .ok (.endOfInput, _) => .ok (headers, none)
  | .ok (.lineBreak, c') => .ok (headers, some c'.rest)
  | .ok (.keyword, c') => .error (.unexpectedToken .headerLine c'.offset)
  | .ok (.separator, c') => .error (.unexpectedToken .headerKey c'.offset)
  | .ok (.identifier key, c₁) =>
    match _hline : c₁.readAfterKey with
    | .error e => .error e
    | .ok (value, .lineBreak, c₂) => c₂.readHeaders (headers.insert key value)
    | .ok (value, .endOfInput, _) => .ok (headers.insert key value, none)
    | .ok (_, _, c₂) => .error (.unexpectedToken .headerLineBreak c₂.offset)
termination_by c.rest.length
decreasing_by
  exact Nat.lt_of_le_of_lt (Cursor.readAfterKey_le _hline) (Cursor.read_lt _hkey nofun)

namespace Frame

/-- One more than the greatest length that can be declared. -/
def lengthLimit : Nat := UInt64.size

/-- The length that the headers declare; none declared is zero. -/
def declaredLength (headers : Headers) : Except FrameError Nat :=
  match headers.get? Key.contentLength with
  | none => .ok 0
  | some value =>
    match Numeral.below? lengthLimit value.trimSpaces with
    | some n => .ok n
    | none => .error (.invalidContentLength value)

/-- The body of `length` octets at the start of what follows the blank line.  Without a blank line
nothing follows. -/
def takeBody (length : Nat) (following : Option Bytes) : Except FrameError Bytes :=
  let available := following.getD []
  if available.length < length then .error (.truncatedBody length available.length)
  else .ok (available.take length)

/-- The header lines after the status line, if the line is ended by a line break. -/
def readHead (c : Cursor) : Except FrameError (Headers × Option Bytes) :=
  match c.read with
  | .error e => .error e
  | .ok (.endOfInput, _) => .ok (.empty, none)
  | .ok (.lineBreak, c') => c'.readHeaders .empty
  | .ok (_, c') => .error (.unexpectedToken .statusLineBreak c'.offset)

def parse (input : Bytes) : Except FrameError Frame := do
  let (opening, c₀) ← Cursor.skipLineBreaks { rest := input }
  if opening ≠ .keyword then throw .missingStatusLine
  let (version, c₁) ← c₀.readIdentifier .protocolVersion
  let (command, c₂) ← c₁.readIdentifier .command
  let (headers, following) ← readHead c₂
  let length ← declaredLength headers
  let body ← takeBody length following
  return { version, command, headers, body }

end Frame

end SpeechClient.Wire
