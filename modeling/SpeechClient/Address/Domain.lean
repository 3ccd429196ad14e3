import SpeechClient.Address.Domain.Direction
import SpeechClient.Address.Domain.Joining
import SpeechClient.Address.Domain.Mapping
import SpeechClient.Address.Error
import SpeechClient.Address.Punycode
import SpeechClient.Text.Composition

/-!
# Domain names

A domain name is brought into one form and written in ASCII: characters are mapped and composed, the
labels between full stops are checked one by one, and a label with characters beyond ASCII is
written in Punycode.  A label that comes in Punycode has to stand for one that would be written so.
-/

namespace SpeechClient.Domain

/-- ASCII characters that no domain name holds: controls, the space and the marks that part an
address. -/
def forbidden (c : Char) : Bool :=
  c.toNat ≤ 0x20 || c.toNat == 0x7f || "%#/:<>?@[\\]^|".toList.contains c

def isAscii (c : Char) : Bool :=
  c.toNat < 0x80

def labels (name : List Char) : List (List Char) :=
  pieces (· == '.') name

/-- A label as it is shown and as it is written in ASCII. -/
structure Label where
  shown : List Char
  written : List Char
  deriving DecidableEq, Repr

namespace Label

def encodedStart : List Char := ['x', 'n', '-', '-']

def decodingLimit : Nat := 2000

def lengthLimit : Nat := 1000

/-- What every label keeps to: it holds no forbidden character, does not begin with a mark, asks for
joins only where they change what is seen, and is not too long to be written in Punycode. -/
def isValid (label : List Char) : Bool :=
  !label.any forbidden && !label.head?.any Text.isMark && joinersChange [] label &&
    (label.all isAscii || label.length ≤ lengthLimit)

/-- A label that comes in Punycode; what it stands for is in the one form already. -/
def ofEncoded? (label : List Char) : Option Label := do
  let digits := label.drop encodedStart.length
  if digits.length > decodingLimit || label.getLast? == some '-' || !digits.all isAscii then none
  let shown ← Punycode.decode digits
  if shown.contains '.' || !shown.all Mapping.keeps || !Text.isComposed shown || !isValid shown then
    none
  return { shown, written := label }

def ofShown? (label : List Char) : Option Label :=
  if !isValid label then none
  else if label.all isAscii then some { shown := label, written := label }
  else some { shown := label, written := encodedStart ++ Punycode.encode label }

def of? (label : List Char) : Option Label :=
  if encodedStart.isPrefixOf label then ofEncoded? label else ofShown? label

def isRightward (label : Label) : Bool :=
  label.shown.any fun c => (Direction.of c).isRightward

end Label

/-- The labels of a name, unless one breaks a rule.  Where any of them is written from right to left
in part, all have to keep their direction. -/
def labels? (name : List Char) : Option (List Label) := do
  let mapped ← name.mapM Mapping.image?
  let labels ← (labels (Text.composed mapped.flatten)).mapM Label.of?
  if labels.any Label.isRightward && !labels.all fun label => keepsDirection label.shown then none
  return labels

def toAscii (name : List Char) : Except UrlError (List Char) :=
  match labels? name with
  | some labels => .ok (List.intercalate ['.'] (labels.map Label.written))
  | none => .error .invalidDomain

end SpeechClient.Domain
