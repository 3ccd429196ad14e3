import SpeechClient.Text.Composition.Rank
import SpeechClient.Text.Mark

/-!
# Letters that join

In a cursive script a letter takes its form from the letters that it joins.  Two characters without
a form of their own ask for a join or forbid it; a name may hold them only where they change what is
seen: `joinersChange`.  The table is of version 17 of the standard with letters of version 18.
-/

namespace SpeechClient.Domain

inductive Joining where
  | both
  | next
  | previous
  /-- The letters around it join as if it were not there. -/
  | transparent
  deriving DecidableEq, Repr

namespace Joining

def ofLetter? : List Char → Option Joining
  | ['D'] => some .both
  | ['L'] => some .next
  | ['R'] => some .previous
  | ['T'] => some .transparent
  | _ => none

def table : SpanTable Joining := .ofText ofLetter? "
    620:D 622-625:R 626:D 627:R 628:D 629:R 62a-62e:D 62f-632:R 633-63f:D 641-647:D 648:R
    649-64a:D 66e-66f:D 671-673:R 675-677:R 678-687:D 688-699:R 69a-6bf:D 6c0:R 6c1-6c2:D
    6c3-6cb:R 6cc:D 6cd:R 6ce:D 6cf:R 6d0-6d1:D 6d2-6d3:R 6d5:R 6ee-6ef:R 6fa-6fc:D 6ff:D 710:R
    712-714:D 715-719:R 71a-71d:D 71e:R 71f-727:D 728:R 729:D 72a:R 72b:D 72c:R 72d-72e:D 72f:R
    74d:R 74e-758:D 759-75b:R 75c-76a:D 76b-76c:R 76d-770:D 771:R 772:D 773-774:R 775-777:D
    778-779:R 77a-77f:D 7ca-7ea:D 840:R 841-845:D 846-847:R 848:D 849:R 84a-853:D 854:R 855:D
    856-858:R 860:D 862-865:D 867:R 868:D 869-86a:R 870-882:R 886:D 889-88d:D 88e:R 88f:D
    8a0-8a9:D 8aa-8ac:R 8ae:R 8af-8b0:D 8b1-8b2:R 8b3-8b8:D 8b9:R 8ba-8c8:D 1807:D 1820-1878:D
    1887-18a8:D 18aa:D a840-a871:D a872:L 10ac0-10ac4:D 10ac5:R 10ac7:R 10ac9-10aca:R 10acd:L
    10ace-10ad2:R 10ad3-10ad6:D 10ad7:L 10ad8-10adc:D 10add:R 10ade-10ae0:D 10ae1:R 10ae4:R
    10aeb-10aee:D 10aef:R 10b80:D 10b81:R 10b82:D 10b83-10b85:R 10b86-10b88:D 10b89:R
    10b8a-10b8b:D 10b8c:R 10b8d:D 10b8e-10b8f:R 10b90:D 10b91:R 10ba9-10bac:R 10bad-10bae:D
    10d00:L 10d01-10d21:D 10d22:R 10d23:D 10ec2:R 10ec3-10ec4:D 10ec6-10ecf:D 10ed9-10ede:D
    10f30-10f32:D 10f33:R 10f34-10f44:D 10f51-10f53:D 10f54:R 10f70-10f73:D 10f74-10f75:R
    10f76-10f81:D 10fb0:D 10fb2-10fb3:D 10fb4-10fb6:R 10fb8:D 10fb9-10fba:R 10fbb-10fbc:D 10fbd:R
    10fbe-10fbf:D 10fc1:D 10fc2-10fc3:R 10fc4:D 10fc9:R 10fca:D 10fcb:L 1e900-1e943:D 1e94b:T"

def of? (c : Char) : Option Joining :=
  match table.value? c.toNat with
  | some joining => some joining
  | none => if Text.isNonspacing c then some .transparent else none

def joinsNext (j : Option Joining) : Bool :=
  j == some .both || j == some .next

def joinsPrevious (j : Option Joining) : Bool :=
  j == some .both || j == some .previous

end Joining

def nonJoiner : Char := '\u200c'

def joiner : Char := '\u200d'

def firstJoining (cs : List Char) : Option Joining :=
  (cs.find? fun c => Joining.of? c ≠ some .transparent).bind Joining.of?

/-- A join is asked for or forbidden where it changes what is seen: after a sign that takes a vowel
away, or, to forbid one, between letters that would join.  The characters before stand in
reverse. -/
def changesForm (before : List Char) (c : Char) (after : List Char) : Bool :=
  (before.head?.map Text.Composition.rank == some Text.Composition.viramaRank) ||
    (c == nonJoiner && Joining.joinsNext (firstJoining before) &&
      Joining.joinsPrevious (firstJoining after))

/-- Every join that the label asks for or forbids changes what is seen; `before` is what precedes
the label, in reverse. -/
def joinersChange (before : List Char) : List Char → Bool
  | [] => true
  | c :: rest =>
    ((c ≠ joiner && c ≠ nonJoiner) || changesForm before c rest) && joinersChange (c :: before) rest

end SpeechClient.Domain
