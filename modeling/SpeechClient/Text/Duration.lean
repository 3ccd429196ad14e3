import SpeechClient.Text.Numeral

/-!
# Spans of time as text

A span of time is written in the largest of four units that it fills, with as many decimal places
as it needs.
-/

namespace SpeechClient

structure Duration where
  nanoseconds : Nat
  deriving DecidableEq, Repr, Inhabited

namespace Duration

structure Scale where
  symbol : String
  /-- How many decimal digits of nanoseconds lie below the unit. -/
  places : Nat

namespace Scale

def seconds : Scale := ⟨"s", 9⟩
def milliseconds : Scale := ⟨"ms", 6⟩
def microseconds : Scale := ⟨"µs", 3⟩
def nanoseconds : Scale := ⟨"ns", 0⟩

def size (u : Scale) : Nat := Nat.pow 10 u.places

end Scale

def ofSeconds (n : Nat) : Duration := ⟨n * Scale.seconds.size⟩
def ofMilliseconds (n : Nat) : Duration := ⟨n * Scale.milliseconds.size⟩

def milliseconds (d : Duration) : Nat := d.nanoseconds / Scale.milliseconds.size

/-- The digits of `n` filled up with zeros on the left to `width`, without zeros at the end. -/
def fractionDigits (n width : Nat) : List Char :=
  let ds := (Numeral.ofNat n).map fun b => Char.ofNat b.toNat
  let padded := List.replicate (width - ds.length) '0' ++ ds
  (padded.reverse.dropWhile (· == '0')).reverse

def Scale.decimal (u : Scale) (n : Nat) : String :=
  let whole := toString (n / u.size)
  let fraction := fractionDigits (n % u.size) u.places
  if fraction.isEmpty then whole else whole ++ "." ++ String.ofList fraction

def Scale.largest (n : Nat) : Scale :=
  ([seconds, milliseconds, microseconds].find? (·.size ≤ n)).getD nanoseconds

def text (d : Duration) : String :=
  let u := Scale.largest d.nanoseconds
  u.decimal d.nanoseconds ++ u.symbol

end Duration

end SpeechClient
