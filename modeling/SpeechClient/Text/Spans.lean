import SpeechClient.Text.Digits
import SpeechClient.Text.Pieces

/-!
# Properties of characters, run by run

A property that neighbouring characters share is told once for the whole run.  A table holds the
runs in ascending order, so that a character is found by halving.

A table is written as words: the first and last number of a run in hexadecimal, and after a colon
what holds of it, as in `300-314:230`; a run of one character has one number.
-/

namespace SpeechClient

/-- A run of characters, given by number and with both ends, and what holds of all in it. -/
structure Span (α : Type) where
  first : Nat
  last : Nat
  value : α
  deriving Repr

/-- The runs of a property, in ascending order. -/
structure SpanTable (α : Type) where
  spans : Array (Span α)

namespace SpanTable

variable {α : Type}

/-- The run that holds the number, among those from `low` on and below `high`. -/
def search (t : SpanTable α) (n low high : Nat) (h : high ≤ t.spans.size) : Option (Span α) :=
  if hlt : low < high then
    let middle := (low + high) / 2
    have hm : middle < high := by omega
    let span := t.spans[middle]
    if n < span.first then search t n low middle (by omega)
    else if span.last < n then search t n (middle + 1) high h
    else some span
  else none
termination_by high - low

def span? (t : SpanTable α) (n : Nat) : Option (Span α) :=
  t.search n 0 t.spans.size (Nat.le_refl _)

def value? (t : SpanTable α) (n : Nat) : Option α :=
  (t.span? n).map Span.value

def contains (t : SpanTable α) (c : Char) : Bool :=
  (t.span? c.toNat).isSome

/-- The runs of a word: numbers, and what `read` makes of the text after the colon. -/
def readWord (read : List Char → Option α) (word : List Char) : Option (Span α) :=
  let (run, told) := (word.takeWhile (· != ':'), (word.dropWhile (· != ':')).drop 1)
  match (pieces (· == '-') run).map (Digits.number? 16), read told with
  | [some n], some value => some ⟨n, n, value⟩
  | [some first, some last], some value => some ⟨first, last, value⟩
  | _, _ => none

/-- The table that words give, which stand in ascending order. -/
def ofText (read : List Char → Option α) (text : String) : SpanTable α :=
  ⟨((pieces Char.isWhitespace text.toList).filterMap fun word =>
    if word.isEmpty then none else readWord read word).toArray⟩

/-- The set of characters that runs without a word about them give. -/
def ofRuns (text : String) : SpanTable Unit :=
  ofText (fun _ => some ()) text

end SpanTable

end SpeechClient
