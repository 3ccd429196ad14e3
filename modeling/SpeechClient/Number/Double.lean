/-!
# Binary64 numbers

A number in the 64-bit binary floating-point format, held as its bits.  Order and arithmetic are
computed on the bits in exact integer arithmetic, so everything about them can be reasoned about.

- `Double.lt`, `Double.le`: the order of the format; no comparison with a NaN holds and the two
  zeros are equal.
- `Double.ofRatio`: the nearest number to a quotient, a tie going to the even neighbour.
-/

namespace SpeechClient

structure Double where
  /-- Sign, exponent and fraction. -/
  bits : UInt64
  deriving DecidableEq, Repr, Inhabited

namespace Double

def signBit : Nat := 0x8000000000000000

/-- The bit above the fraction, which is not written: it is set unless the exponent is least. -/
def hiddenBit : Nat := 0x10000000000000

/-- The bits below the sign. -/
def magnitude (x : Double) : Nat :=
  x.bits.toNat % signBit

def negative (x : Double) : Bool :=
  signBit ≤ x.bits.toNat

/-- The magnitude of the infinities; a greater one is a NaN. -/
def infinityMagnitude : Nat := 2047 * hiddenBit

def isNaN (x : Double) : Bool :=
  infinityMagnitude < x.magnitude

def isFinite (x : Double) : Bool :=
  x.magnitude < infinityMagnitude

def isInfinite (x : Double) : Bool :=
  x.magnitude == infinityMagnitude

/-- The place of a number in the order: numbers compare as their ranks do. -/
def rank (x : Double) : Int :=
  if x.negative then -(x.magnitude : Int) else x.magnitude

def lt (x y : Double) : Bool :=
  !x.isNaN && !y.isNaN && x.rank < y.rank

def le (x y : Double) : Bool :=
  !x.isNaN && !y.isNaN && x.rank ≤ y.rank

def ofMagnitude (negative : Bool) (magnitude : Nat) : Double :=
  ⟨((if negative then signBit else 0) + magnitude % signBit).toUInt64⟩

def zero : Double := ⟨0⟩

/-- Minus one, which stands for a time that is not known. -/
def minusOne : Double := ⟨0xbff0000000000000⟩

def neg (x : Double) : Double :=
  ofMagnitude (!x.negative) x.magnitude

/-- The significand of a finite number; the number is this times two to the power `exponent`. -/
def significand (x : Double) : Nat :=
  let fraction := x.magnitude % hiddenBit
  if x.magnitude < hiddenBit then fraction else fraction + hiddenBit

/-- The power of two that the significand counts. -/
def exponent (x : Double) : Int :=
  if x.magnitude < hiddenBit then -1074 else (x.magnitude / hiddenBit : Nat) - 1075

/-- Numerator and denominator of `num / den` divided by two to the power `e`. -/
def scaled (num den : Nat) (e : Int) : Nat × Nat :=
  (num * Nat.pow 2 (-e).toNat, den * Nat.pow 2 e.toNat)

/-- The power of two of which the nearest number to `num / den` is a multiple: the quotient has 53
binary digits above it, as far as the least exponent allows. -/
def unitExponent (num den : Nat) : Int :=
  let guess : Int := (Nat.log2 num : Int) - Nat.log2 den - 52
  let (n, d) := scaled num den guess
  let e := if n < d * hiddenBit then guess - 1 else guess
  max e (-1074)

def roundEven (num den : Nat) : Nat :=
  let q := num / den
  let r := num % den
  if 2 * r > den || (2 * r == den && q % 2 == 1) then q + 1 else q

/-- The nearest number to `num / den`, with a sign.  A quotient beyond all finite numbers gives
infinity. -/
def ofRatio (negative : Bool) (num den : Nat) : Double :=
  if num = 0 then ofMagnitude negative 0
  else
    let e := unitExponent num den
    let (n, d) := scaled num den e
    let magnitude := (e + 1074).toNat * hiddenBit + roundEven n d
    ofMagnitude negative (min magnitude infinityMagnitude)

def ofNat (n : Nat) : Double :=
  ofRatio false n 1

def ofInt (i : Int) : Double :=
  ofRatio (i < 0) i.natAbs 1

def powerOfTen (k : Nat) : Double :=
  ofNat (Nat.pow 10 k)

def mul (x y : Double) : Double :=
  let e := x.exponent + y.exponent
  ofRatio false (x.significand * y.significand * Nat.pow 2 e.toNat) (Nat.pow 2 (-e).toNat)

/-- The quotient of two finite numbers, the first not negative and the second positive. -/
def div (x y : Double) : Double :=
  let e := x.exponent - y.exponent
  ofRatio false (x.significand * Nat.pow 2 e.toNat) (y.significand * Nat.pow 2 (-e).toNat)

/-- The number without its fraction, held to the range of a signed word of 64 bits; a NaN gives
zero. -/
def truncate (x : Double) : Int :=
  if x.isNaN then 0
  else
    let whole : Nat := x.significand * Nat.pow 2 x.exponent.toNat / Nat.pow 2 (-x.exponent).toNat
    if x.negative then max (-(whole : Int)) (-signBit) else min (whole : Int) (signBit - 1)

theorem lt_irrefl (x : Double) : x.lt x = false := by
  simp [lt]

theorem le_eq_false_of_lt {x y : Double} (h : x.lt y = true) : y.le x = false := by
  simp only [lt, le, Bool.and_eq_true, Bool.not_eq_true', decide_eq_true_eq] at h ⊢
  simp [h.1.1, h.1.2]
  omega

end Double

end SpeechClient
