import SpeechClient.Proofs.Wire.Length
import SpeechClient.Wire.Parse

/-!
# The grammar of frames

A frame as it may stand on the wire: blank lines, the status line, header lines with spaces at any
place between their parts, and what follows the blank line.  `FrameText` has exactly the texts that
the grammar allows, `FrameText.octets` writes one down, and `FrameText.Denotes` says which frame it
stands for.

- `get?_insertLines`: entered one after another, the lines give each key the value of its last one.
-/

namespace SpeechClient.Wire

/-! ## Words -/

/-- A version, a command or a header key: a run of identifier octets that is not the keyword. -/
def IsName (b : Bytes) : Prop :=
  b ≠ [] ∧ (∀ x ∈ b, isIdentifierByte x = true) ∧ b ≠ keyword

/-- A header value.  It may be empty, and it may be the keyword. -/
def IsValue (b : Bytes) : Prop :=
  (∀ x ∈ b, isValueByte x = true) ∧ b.head? ≠ some Bytes.space

-- Both run through the octets of the word, and not through all octets that there are.
instance (b : Bytes) : Decidable (IsName b) :=
  decidable_of_iff (b ≠ [] ∧ b.all isIdentifierByte = true ∧ b ≠ keyword) <| by
    rw [IsName, List.all_eq_true]

instance (b : Bytes) : Decidable (IsValue b) :=
  decidable_of_iff (b.all isValueByte = true ∧ b.head? ≠ some Bytes.space) <| by
    rw [IsValue, List.all_eq_true]

/-! ## Texts -/

/-- A header line without what ends it, with the spaces before its key and around its colon. -/
structure LineText where
  indent : Nat
  key : Bytes
  beforeColon : Nat
  afterColon : Nat
  value : Bytes
  key_isName : IsName key
  value_isValue : IsValue value

/-- What stands behind the last full header line: at most spaces, one more line that nothing ends,
or a blank line and anything after it. -/
inductive HeadersEnd where
  | input (indent : Nat)
  | openLine (line : LineText)
  | blankLine (indent : Nat) (rest : Bytes)

/-- All that stands behind the break of the status line. -/
structure HeadersText where
  lines : List LineText
  ending : HeadersEnd

/-- A frame with all that may stand around its parts: blank lines, each given by its spaces; spaces
before the keyword; before version and command the spaces beyond the one that must be there; spaces
behind the command; and what follows the status line, if a line break ends it. -/
structure FrameText where
  blankLines : List Nat
  indent : Nat
  versionGap : Nat
  version : Bytes
  commandGap : Nat
  command : Bytes
  trailing : Nat
  headers : Option HeadersText
  version_isName : IsName version
  command_isName : IsName command

def LineText.octets (line : LineText) : Bytes :=
  spaces line.indent ++ line.key ++ spaces line.beforeColon ++ [Bytes.colon] ++
    spaces line.afterColon ++ line.value

def HeadersEnd.octets : HeadersEnd → Bytes
  | .input indent => spaces indent
  | .openLine line => line.octets
  | .blankLine indent rest => spaces indent ++ Bytes.lineBreak ++ rest

def HeadersText.octets (text : HeadersText) : Bytes :=
  text.lines.flatMap (fun line => line.octets ++ Bytes.lineBreak) ++ text.ending.octets

def tailOctets : Option HeadersText → Bytes
  | none => []
  | some headers => Bytes.lineBreak ++ headers.octets

def blankOctets (blankLines : List Nat) : Bytes :=
  blankLines.flatMap fun indent => spaces indent ++ Bytes.lineBreak

def FrameText.octets (text : FrameText) : Bytes :=
  blankOctets text.blankLines ++ spaces text.indent ++ keyword ++ spaces (text.versionGap + 1) ++
    text.version ++ spaces (text.commandGap + 1) ++ text.command ++ spaces text.trailing ++
    tailOctets text.headers

/-! ## What a text denotes -/

def HeadersText.allLines (text : HeadersText) : List LineText :=
  match text.ending with
  | .openLine line => text.lines ++ [line]
  | _ => text.lines

def HeadersText.following (text : HeadersText) : Option Bytes :=
  match text.ending with
  | .blankLine _ rest => some rest
  | _ => none

def FrameText.lines (text : FrameText) : List LineText :=
  (text.headers.map HeadersText.allLines).getD []

def FrameText.following (text : FrameText) : Option Bytes :=
  text.headers.bind HeadersText.following

def lastValue (key : Bytes) (lines : List LineText) : Option Bytes :=
  (lines.reverse.find? fun line => line.key == key).map (·.value)

/-- The body that a declared length cuts off.  Without a declaration it is empty; zero needs no
blank line, any other length needs one with so many octets behind it. -/
def BodyFor (declared : Option Bytes) (following : Option Bytes) (body : Bytes) : Prop :=
  match declared with
  | none => body = []
  | some value =>
    ∃ n, DeclaresLength value n ∧ n < UInt64.size ∧
      (n = 0 ∧ body = [] ∨
        0 < n ∧ ∃ rest, following = some rest ∧ n ≤ rest.length ∧ body = rest.take n)

structure FrameText.Denotes (text : FrameText) (f : Frame) : Prop where
  version : f.version = text.version
  command : f.command = text.command
  headers : ∀ key, f.header? key = lastValue key text.lines
  body : BodyFor (f.header? Key.contentLength) text.following f.body

/-! ## Lines and headers -/

def insertLines (headers : Headers) (lines : List LineText) : Headers :=
  lines.foldl (fun headers line => headers.insert line.key line.value) headers

theorem lastValue_cons (key : Bytes) (line : LineText) (lines : List LineText) :
    lastValue key (line :: lines) =
      (lastValue key lines).or (if key = line.key then some line.value else none) := by
  by_cases same : key = line.key
  · simp [lastValue, List.find?_append, same]
  · simp [lastValue, List.find?_append, same, Ne.symm same]

/-- Of several lines with one key the last counts. -/
theorem get?_insertLines (headers : Headers) (lines : List LineText) (key : Bytes) :
    (insertLines headers lines).get? key = (lastValue key lines).or (headers.get? key) := by
  -- On the lines from the first on: each insertion hides what the headers had before it.
  induction lines generalizing headers with
  | nil => rfl
  | cons line lines ih =>
    rw [insertLines, List.foldl_cons, ← insertLines, ih, lastValue_cons, Headers.get?_insert,
      Option.or_assoc]
    split <;> rfl

end SpeechClient.Wire
