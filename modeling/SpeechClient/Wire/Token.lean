import SpeechClient.Wire.Error
import SpeechClient.Wire.Vocabulary

/-!
# Tokens of a frame's head

A cursor walks over the octets of a frame and yields one token at a time, so the reader can stop
at the end of the head and leave the body unread.  After a colon the rest of the line is one run:
spaces and further colons belong to it.

- `Cursor.next_le`, `Cursor.next_lt`: the cursor never goes back, and every token but the end of
  the input takes at least one octet.
-/

namespace SpeechClient.Wire

inductive Token where
  /-- The word `ASR`. -/
  | keyword
  /-- Any other run of octets. -/
  | identifier (run : Bytes)
  | separator
  | lineBreak
  | endOfInput
  deriving DecidableEq, Repr

/-- The octets of an identifier: letters, digits and nine marks. -/
def isIdentifierByte (b : UInt8) : Bool :=
  Bytes.isAlphanumeric b || [0x2d, 0x2f, 0x2e, 0x2c, 0x5f, 0x28, 0x29, 0x3c, 0x3e].contains b

def isValueByte (b : UInt8) : Bool :=
  isIdentifierByte b || b == Bytes.space || b == Bytes.colon

structure Cursor where
  rest : Bytes
  offset : Nat := 0
  /-- A colon has been read on this line. -/
  inValue : Bool := false
  deriving DecidableEq, Repr

namespace Cursor

def inRun (c : Cursor) (b : UInt8) : Bool :=
  if c.inValue then isValueByte b else isIdentifierByte b

def skipSpaces (c : Cursor) : Cursor :=
  { c with
    rest := c.rest.dropWhile (· == Bytes.space)
    offset := c.offset + (c.rest.takeWhile (· == Bytes.space)).length }

def run (c : Cursor) : Token × Cursor :=
  let taken := c.rest.takeWhile c.inRun
  (if taken = keyword then .keyword else .identifier taken,
    { c with rest := c.rest.dropWhile c.inRun, offset := c.offset + taken.length })

/-- The token at a cursor that does not stand before a space. -/
def token (c : Cursor) : Except FrameError Token × Cursor :=
  match c.rest with
  | [] => (.ok .endOfInput, { c with inValue := false })
  | b :: rest =>
    -- Only the first colon of a line parts key and value.
    if b == Bytes.colon && !c.inValue then
      (.ok .separator, ⟨rest, c.offset + 1, true⟩)
    else if b == Bytes.cr && rest.head? == some Bytes.lf then
      (.ok .lineBreak, ⟨rest.tail, c.offset + 2, false⟩)
    else if c.inRun b then
      (.ok c.run.1, c.run.2)
    else
      (.error (.invalidCharacter b c.offset), c)

/-- The next token, and the cursor after it.  At an octet that starts no token the cursor stays
before that octet. -/
def next (c : Cursor) : Except FrameError Token × Cursor :=
  c.skipSpaces.token

theorem skipSpaces_le (c : Cursor) : c.skipSpaces.rest.length ≤ c.rest.length := by
  simpa [skipSpaces] using (List.dropWhile_sublist _).length_le

theorem token_le (c : Cursor) : c.token.2.rest.length ≤ c.rest.length := by
  unfold token
  split
  · simp
  next b rest h =>
    split
    · simp [h]
    split
    · simp [h]; omega
    split
    · simpa [run] using (List.dropWhile_sublist _).length_le
    · simp

/-- The cursor never goes back. -/
theorem next_le (c : Cursor) : c.next.2.rest.length ≤ c.rest.length :=
  Nat.le_trans (token_le _) (skipSpaces_le c)

theorem token_lt {c : Cursor} {t : Token} (h : c.token.1 = .ok t) (ht : t ≠ .endOfInput) :
    c.token.2.rest.length < c.rest.length := by
  unfold token at h ⊢
  split at h
  · cases h; exact absurd rfl ht
  next b rest hrest =>
    rw [hrest]
    split at h <;> rename_i h₁
    · simp [h₁]
    split at h <;> rename_i h₂
    · have htail : rest.tail.length < (b :: rest).length := by
        rw [List.length_tail, List.length_cons]; omega
      rwa [if_neg h₁, if_pos h₂]
    split at h <;> rename_i h₃
    · have hdrop : c.run.2.rest = rest.dropWhile c.inRun := by simp [run, hrest, h₃]
      have := (List.dropWhile_sublist (p := c.inRun) (l := rest)).length_le
      simp only [h₁, h₂, h₃, if_true]
      simp [hdrop]; omega
    · cases h

/-- Every token but the end of the input takes at least one octet. -/
theorem next_lt {c : Cursor} {t : Token} (h : c.next.1 = .ok t) (ht : t ≠ .endOfInput) :
    c.next.2.rest.length < c.rest.length :=
  Nat.lt_of_lt_of_le (token_lt h ht) (skipSpaces_le c)

end Cursor

end SpeechClient.Wire
