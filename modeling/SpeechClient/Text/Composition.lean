import SpeechClient.Text.Composition.Pair
import SpeechClient.Text.Composition.Rank

/-!
# Composed text

Texts that look the same are brought into one form.  Every character is taken apart, the marks
after a character are put in the order of their ranks, and what can be composed is composed again,
from the first mark on.
-/

namespace SpeechClient.Text

namespace Composition

/-- The characters that a character stands for, taken apart at most `depth` times. -/
def parts (depth : Nat) (c : Char) : List Char :=
  match depth with
  | 0 => [c]
  | depth + 1 =>
    match split? c with
    | some (first, second) => parts depth first ++ [second]
    | none => [c]

/-- No character is composed of one composed of one composed of a composed one. -/
def greatestDepth : Nat := 3

/-- Characters with the marks that follow each of them, the marks in the order of their ranks. -/
def ordered (cs : List Char) : List Char :=
  (cs.splitBy fun _ c => rank c ≠ 0).flatMap fun group =>
    group.mergeSort fun a b => rank a ≤ rank b

structure Progress where
  /-- What is settled, in reverse. -/
  settled : List Char := []
  base? : Option Char := none
  /-- The marks after it that it does not take in, in reverse. -/
  marks : List Char := []

namespace Progress

def written (p : Progress) : List Char :=
  match p.base? with
  | some base => p.marks ++ base :: p.settled
  | none => p.settled

/-- The character composed of the base and the next character, which no mark may keep apart: a mark
of the same rank or a higher one does. -/
def joined? (p : Progress) (base c : Char) : Option Char :=
  match p.marks with
  | [] => join? base c
  | mark :: _ => if rank c ≤ rank mark then none else join? base c

/-- The next character is taken in, starts anew or stays a mark. -/
def step (p : Progress) (c : Char) : Progress :=
  match p.base? with
  | none =>
    if rank c = 0 then { p with base? := some c } else { p with settled := c :: p.settled }
  | some base =>
    match p.joined? base c with
    | some composed => { p with base? := some composed }
    | none =>
      if rank c = 0 then { settled := p.written, base? := some c }
      else { p with marks := c :: p.marks }

end Progress

end Composition

def composed (cs : List Char) : List Char :=
  let apart := cs.flatMap (Composition.parts Composition.greatestDepth)
  ((Composition.ordered apart).foldl Composition.Progress.step {}).written.reverse

def isComposed (cs : List Char) : Bool :=
  composed cs == cs

end SpeechClient.Text
