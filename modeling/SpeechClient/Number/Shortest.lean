import SpeechClient.Number.Double
import SpeechClient.Text.Numeral

/-!
# The shortest decimal that reads back

A finite number of the 64-bit format is written with the fewest decimal digits that still lie
closer to it than to any other number.  The digits are found by trying one grid after another: on
each, only the two neighbours of the number can lie in the interval of reals that round to it.
-/

namespace SpeechClient.Shortest

/-- A positive quotient as `num / den`. -/
structure Ratio where
  num : Nat
  den : Nat

namespace Ratio

def lt (a b : Ratio) : Bool := a.num * b.den < b.num * a.den

/-- `n` times ten to the power `p`. -/
def grid (n : Nat) (p : Int) : Ratio :=
  ⟨n * Nat.pow 10 p.toNat, Nat.pow 10 (-p).toNat⟩

/-- `n` times two to the power `e`. -/
def dyadic (n : Nat) (e : Int) : Ratio :=
  ⟨n * Nat.pow 2 e.toNat, Nat.pow 2 (-e).toNat⟩

def floorOn (a : Ratio) (p : Int) : Nat :=
  (a.num * Nat.pow 10 (-p).toNat) / (a.den * Nat.pow 10 p.toNat)

end Ratio

/-- The reals that round to a number: its two ends, and whether the ends belong to it. -/
structure Interval where
  low : Ratio
  high : Ratio
  closed : Bool

/-- The interval of a positive finite number.  Just above a power of two the lower neighbour is
twice as near. -/
def Interval.of (x : Double) : Interval :=
  let m := x.significand
  let e := x.exponent
  let low := if m = Double.hiddenBit ∧ -1074 < e then Ratio.dyadic (4 * m - 1) (e - 2)
    else Ratio.dyadic (2 * m - 1) (e - 1)
  { low, high := Ratio.dyadic (2 * m + 1) (e - 1), closed := m % 2 == 0 }

/-- The quotient rounds to the number whose interval this is. -/
def Interval.contains (i : Interval) (r : Ratio) : Bool :=
  (i.low.lt r && r.lt i.high) || (i.closed && !(r.lt i.low) && !(i.high.lt r))

def decade (r : Ratio) (start : Int) : Nat → Int
  | 0 => start
  | fuel + 1 => if r.lt (.grid 1 start) then decade r (start - 1) fuel else start

/-- The point of the grid `10 ^ p` that is nearest to `value` and rounds to it: of two equally near
points the even one. -/
def onGrid (value : Ratio) (i : Interval) (p : Int) : Option Nat :=
  let below := value.floorOn p
  let above := below + 1
  let hitBelow := below ≠ 0 && i.contains (.grid below p)
  let hitAbove := i.contains (.grid above p)
  let twice : Ratio := ⟨2 * value.num, value.den⟩
  let middle := Ratio.grid (below + above) p
  -- On a grid finer than the interval both neighbours may round to the number.
  if hitBelow && hitAbove then
    if twice.lt middle then some below
    else if middle.lt twice then some above
    else if below % 2 = 0 then some below else some above
  else if hitBelow then some below
  else if hitAbove then some above
  else none

/-- The first grid with a hit, from coarse to fine, as digits and power of ten. -/
def search (value : Ratio) (i : Interval) (p : Int) : Nat → Nat × Int
  | 0 => (value.floorOn p, p)
  | fuel + 1 =>
    match onGrid value i p with
    | some n => (n, p)
    | none => search value i (p - 1) fuel

/-- The digits without zeros at the end, the power of ten raised for each zero dropped. -/
def dropZeros (n : Nat) (p : Int) : Nat → Nat × Int
  | 0 => (n, p)
  | fuel + 1 => if n ≠ 0 ∧ n % 10 = 0 then dropZeros (n / 10) (p + 1) fuel else (n, p)

/-- The shortest decimal of a positive finite number: `digits · 10 ^ power`.  Seventeen digits are
always enough, and no power beyond 308 is reached. -/
def decimal (x : Double) : Nat × Int :=
  let value := Ratio.dyadic x.significand x.exponent
  let top := decade value 309 640
  let (n, p) := search value (.of x) top 17
  dropZeros n p 20

/-- How a decimal is laid out: positional up to `positionalDigits` places before the point and
fewer than `leadingZeros` zeros after it, and with an exponent elsewhere. -/
structure Layout where
  positionalDigits : Int
  leadingZeros : Int

def digitChars (n : Nat) : List Char :=
  (Numeral.ofNat n).map fun b => Char.ofNat b.toNat

def exponentChars (e : Int) : List Char :=
  ['e'] ++ (if 0 ≤ e then ['+'] else []) ++ (Numeral.ofInt e).toList

def Layout.render (l : Layout) (digits : Nat) (power : Int) : List Char :=
  let ds := digitChars digits
  let point := ds.length + power
  if 0 ≤ power ∧ point ≤ l.positionalDigits then
    ds ++ List.replicate power.toNat '0' ++ ['.', '0']
  else if 0 < point ∧ point ≤ l.positionalDigits then
    ds.take point.toNat ++ ['.'] ++ ds.drop point.toNat
  else if -l.leadingZeros < point ∧ point ≤ 0 then
    ['0', '.'] ++ List.replicate (-point).toNat '0' ++ ds
  else
    ds.take 1 ++ (if ds.length = 1 then [] else '.' :: ds.drop 1) ++ exponentChars (point - 1)

/-- The shortest text of a finite number in a layout. -/
def text (l : Layout) (x : Double) : String :=
  let sign := if x.negative then ['-'] else []
  if x.magnitude = 0 then String.ofList (sign ++ ['0', '.', '0'])
  else
    let (digits, power) := decimal x
    String.ofList (sign ++ l.render digits power)

end SpeechClient.Shortest
