import SpeechClient.Json.Value
import SpeechClient.Text.Numeral

/-!
# Reading a JSON number

A numeral is cut into sign, whole part, fraction and exponent, and then turned into a number.  An
integer that fits its word stays exact.  Any other numeral is computed from as many leading digits
as fit an unsigned word of 64 bits, in one rounded multiplication or division by a power of ten;
the result can therefore be a neighbour of the nearest number.
-/

namespace SpeechClient.Json

structure NumeralParts where
  negative : Bool
  whole : List Nat
  fraction : Option (List Nat)
  exponent : Option (Bool × List Nat)

def digits (b : Bytes) : List Nat × Bytes :=
  ((b.takeWhile Bytes.isDigit).map fun d => d.toNat - 0x30, b.dropWhile Bytes.isDigit)

def readFraction : Bytes → Option (Option (List Nat) × Bytes)
  | 0x2e :: rest =>
    let (ds, rest) := digits rest
    if ds.isEmpty then none else some (some ds, rest)
  | b => some (none, b)

def readSign : Bytes → Bool × Bytes
  | 0x2b :: rest => (false, rest)
  | 0x2d :: rest => (true, rest)
  | b => (false, b)

/-- The letter E in either case, an optional sign and at least one digit, if there is such a
letter. -/
def readExponent : Bytes → Option (Option (Bool × List Nat) × Bytes)
  | [] => some (none, [])
  | b :: rest =>
    if b == 0x65 || b == 0x45 then
      let (minus, rest) := readSign rest
      let (ds, rest) := digits rest
      if ds.isEmpty then none else some (some (minus, ds), rest)
    else some (none, b :: rest)

/-- The longest numeral at the start.  A whole part of more than one digit does not start with
zero. -/
def readNumeral (b : Bytes) : Option (NumeralParts × Bytes) := do
  let (negative, b) := if b.head? == some 0x2d then (true, b.tail) else (false, b)
  let (whole, b) := digits b
  if whole.isEmpty || (whole.head? == some 0 && 1 < whole.length) then none
  let (fraction, b) ← readFraction b
  let (exponent, b) ← readExponent b
  return ({ negative, whole, fraction, exponent }, b)

/-- The greatest unsigned word of 64 bits. -/
def wordMax : Nat := UInt64.size - 1

/-- The significand after as many of the digits as fit the word, and how many did not fit. -/
def absorb (significand : Nat) : List Nat → Nat × Nat
  | [] => (significand, 0)
  | d :: rest =>
    if significand * 10 + d ≤ wordMax then absorb (significand * 10 + d) rest
    else (significand, rest.length + 1)

/-- The number divided by ten to the power `k`, in steps that a power of ten can be written for. -/
def scaleDown (x : Double) (k : Nat) : Double :=
  if k ≤ 308 then x.div (.powerOfTen k)
  else if x.magnitude = 0 then x
  else scaleDown (x.div (.powerOfTen 308)) (k - 308)
termination_by k

/-- `significand · 10 ^ exponent`, unless it is beyond all finite numbers. -/
def scale (significand : Nat) (exponent : Int) : Option Double :=
  let x := Double.ofNat significand
  if exponent < 0 then some (scaleDown x exponent.natAbs)
  else if 308 < exponent then (if significand = 0 then some x else none)
  else
    let y := x.mul (.powerOfTen exponent.toNat)
    if y.isInfinite then none else some y

/-- The greatest exponent that is written out; a greater one stands for zero or for infinity. -/
def exponentMax : Nat := UInt32.size / 2 - 1

def NumeralParts.toDouble? (n : NumeralParts) (significand : Nat) (dropped : Nat) : Option Double := do
  let fraction := n.fraction.getD []
  -- Digits that do not fit are left out; those of the whole part still count as powers of ten.
  let (significand, left) := absorb significand fraction
  let start : Int := dropped - (fraction.length - left : Nat)
  let (minus, ds) := n.exponent.getD (false, [])
  let power := ds.foldl (fun acc d => acc * 10 + d) 0
  let x ← if exponentMax < power then
      (if significand ≠ 0 ∧ minus = false then none else some Double.zero)
    else scale significand (if minus then start - power else start + power)
  return if n.negative then x.neg else x

def NumeralParts.toNumber? (n : NumeralParts) : Option JsonNumber :=
  let (significand, dropped) := absorb 0 n.whole
  if dropped = 0 ∧ n.fraction.isNone ∧ n.exponent.isNone then
    if n.negative then
      if significand = 0 ∨ UInt64.size / 2 < significand then
        some (.double (Double.ofNat significand).neg)
      else some (.negative (-(significand : Int)))
    else some (.natural significand)
  else (n.toDouble? significand dropped).map .double

end SpeechClient.Json
