import Mathlib.Data.List.Forall2
import Mathlib.Data.Option.Basic
import SpeechClient.Proofs.Wire.Parsing

/-!
# Spaces that may be left out

Spaces may stand around the words of the status line and around the keys and values of the header
lines.  The scanner drops those before a word and keeps those behind a value, so frames that differ
in nothing else have the same words, the same body and, trimmed, the same values.

- `Spaced`: octets, and the same octets with more spaces at these places.
- `Frame.AlikeSaveSpaces`: frames that agree once their values are trimmed.
- `Spaced.exists_parse`, `Spaced.exists_parse_back`: neither more spaces nor fewer are a fault.
-/

namespace SpeechClient.Wire

/-! ## More spaces in a text -/

/-- The same line with more spaces before or behind its key or its value. -/
structure LineText.Spaced (line line' : LineText) : Prop where
  indent : line.indent ≤ line'.indent
  key : line'.key = line.key
  beforeColon : line.beforeColon ≤ line'.beforeColon
  afterColon : line.afterColon ≤ line'.afterColon
  value : ∃ count, line'.value = line.value ++ spaces count

/-- What stands behind the blank line has no spaces put in. -/
inductive HeadersEnd.Spaced : HeadersEnd → HeadersEnd → Prop where
  | input {indent indent' : Nat} (more : indent ≤ indent') : Spaced (.input indent) (.input indent')
  | openLine {line line' : LineText} (spaced : line.Spaced line') :
      Spaced (.openLine line) (.openLine line')
  | blankLine {indent indent' : Nat} {rest : Bytes} (more : indent ≤ indent') :
      Spaced (.blankLine indent rest) (.blankLine indent' rest)

structure HeadersText.Spaced (text text' : HeadersText) : Prop where
  lines : List.Forall₂ LineText.Spaced text.lines text'.lines
  ending : text.ending.Spaced text'.ending

/-- The same text with more spaces around its words. -/
structure FrameText.Spaced (text text' : FrameText) : Prop where
  blankLines : List.Forall₂ (· ≤ ·) text.blankLines text'.blankLines
  indent : text.indent ≤ text'.indent
  versionGap : text.versionGap ≤ text'.versionGap
  version : text'.version = text.version
  commandGap : text.commandGap ≤ text'.commandGap
  command : text'.command = text.command
  trailing : text.trailing ≤ text'.trailing
  headers : Option.Rel HeadersText.Spaced text.headers text'.headers

/-- The octets of a text, and those of the text with more spaces. -/
def Spaced (octets octets' : Bytes) : Prop :=
  ∃ text text' : FrameText, text.octets = octets ∧ text'.octets = octets' ∧ text.Spaced text'

/-! ## What stays the same -/

theorem forall_mem_spaces (count : Nat) : ∀ b ∈ spaces count, (b == Bytes.space) = true := by
  intro b member
  simpa using (List.mem_replicate.1 member).2

theorem trimSpaces_append_spaces (b : Bytes) (count : Nat) :
    (b ++ spaces count).trimSpaces = b.trimSpaces := by
  rw [Bytes.trimSpaces, Bytes.trimSpaces, List.dropWhile_append]
  cases front : b.dropWhile (· == Bytes.space) with
  | nil => simp [spaces]
  | cons x rest =>
    rw [if_neg (by simp), List.reverse_append, reverse_spaces,
      List.dropWhile_append_of_pos (forall_mem_spaces count)]

theorem declaresLength_iff_of_trimSpaces_eq {value value' : Bytes} {n : Nat}
    (same : value.trimSpaces = value'.trimSpaces) :
    DeclaresLength value n ↔ DeclaresLength value' n := by
  rw [← natural?_trimSpaces_eq_some_iff, same, natural?_trimSpaces_eq_some_iff]

/-- Texts that differ at most in spaces that are dropped or trimmed away. -/
structure FrameText.Alike (text text' : FrameText) : Prop where
  version : text.version = text'.version
  command : text.command = text'.command
  values : ∀ key, (lastValue key text.lines).map Bytes.trimSpaces =
    (lastValue key text'.lines).map Bytes.trimSpaces
  following : text.following = text'.following

theorem FrameText.Alike.symm {text text' : FrameText} (alike : text.Alike text') :
    text'.Alike text :=
  ⟨alike.version.symm, alike.command.symm, fun key => (alike.values key).symm,
    alike.following.symm⟩

theorem lastValue_of_spaced {lines lines' : List LineText}
    (spaced : List.Forall₂ LineText.Spaced lines lines') (key : Bytes) :
    (lastValue key lines).map Bytes.trimSpaces = (lastValue key lines').map Bytes.trimSpaces := by
  induction spaced with
  | nil => rfl
  | cons first _ after =>
    -- the keys are the same, so both lists take their value from the same line
    obtain ⟨count, value⟩ := first.value
    rw [lastValue_cons, lastValue_cons, Option.map_or, Option.map_or, after, first.key]
    split
    · rw [Option.map_some, Option.map_some, value, trimSpaces_append_spaces]
    · rfl

theorem HeadersText.Spaced.allLines {text text' : HeadersText} (spaced : text.Spaced text') :
    List.Forall₂ LineText.Spaced text.allLines text'.allLines := by
  have lines := spaced.lines
  have ending := spaced.ending
  obtain ⟨_, ending₁⟩ := text
  obtain ⟨_, ending₂⟩ := text'
  cases ending with
  | input | blankLine => exact lines
  | openLine last => exact List.rel_append lines (.cons last .nil)

theorem HeadersText.Spaced.following {text text' : HeadersText} (spaced : text.Spaced text') :
    text.following = text'.following := by
  have ending := spaced.ending
  obtain ⟨_, ending₁⟩ := text
  obtain ⟨_, ending₂⟩ := text'
  cases ending <;> rfl

theorem FrameText.Spaced.lines {text text' : FrameText} (spaced : text.Spaced text') :
    List.Forall₂ LineText.Spaced text.lines text'.lines := by
  have headers := spaced.headers
  unfold FrameText.lines
  generalize text.headers = headers₁ at headers
  generalize text'.headers = headers₂ at headers
  cases headers with
  | none => exact .nil
  | some spaced => exact spaced.allLines

theorem FrameText.Spaced.following {text text' : FrameText} (spaced : text.Spaced text') :
    text.following = text'.following := by
  have headers := spaced.headers
  unfold FrameText.following
  generalize text.headers = headers₁ at headers
  generalize text'.headers = headers₂ at headers
  cases headers with
  | none => rfl
  | some spaced => exact spaced.following

theorem FrameText.Spaced.alike {text text' : FrameText} (spaced : text.Spaced text') :
    text.Alike text' :=
  ⟨spaced.version.symm, spaced.command.symm, lastValue_of_spaced spaced.lines, spaced.following⟩

/-! ## What is read -/

namespace Frame

/-- The same frame, save for spaces at the ends of its values. -/
structure AlikeSaveSpaces (f g : Frame) : Prop where
  version : f.version = g.version
  command : f.command = g.command
  values : ∀ key, (f.header? key).map Bytes.trimSpaces = (g.header? key).map Bytes.trimSpaces
  body : f.body = g.body

/-- Of several texts with these octets each denotes what is read. -/
theorem denotes_of_parse {text : FrameText} {f : Frame} (read : parse text.octets = .ok f) :
    text.Denotes f := by
  obtain ⟨c₀, c₁, c₂, first, second, third, fourth⟩ := parts_of_text text
  rw [parse_of_parts first second third fourth] at read
  obtain ⟨length, declared, read⟩ := bind_eq_ok_iff.1 read
  obtain ⟨body, taken, read⟩ := bind_eq_ok_iff.1 read
  cases read
  refine ⟨rfl, rfl, get?_insertLines_empty text.lines, ?_⟩
  refine (body_iff fun value found => ?_).1 ⟨length, declared, taken⟩
  exact isValue_of_lastValue ((get?_insertLines_empty text.lines _).symm.trans found)

end Frame

theorem bodyFor_of_trimmed {declared declared' following : Option Bytes} {body : Bytes}
    (same : declared.map Bytes.trimSpaces = declared'.map Bytes.trimSpaces)
    (bodyFor : BodyFor declared following body) : BodyFor declared' following body := by
  cases declared with
  | none =>
    obtain rfl : declared' = none := by simpa using same.symm
    exact bodyFor
  | some value =>
    obtain ⟨value', rfl, trimmed⟩ := Option.map_eq_some_iff.1 same.symm
    obtain ⟨n, declares, bound, cut⟩ := bodyFor
    exact ⟨n, (declaresLength_iff_of_trimSpaces_eq trimmed).2 declares, bound, cut⟩

/-- Being alike holds both ways, and so does what follows from it: spaces may be put in or taken
out. -/
theorem FrameText.Alike.exists_parse {text text' : FrameText} {f : Frame}
    (alike : text.Alike text') (read : Frame.parse text.octets = .ok f) :
    ∃ g, Frame.parse text'.octets = .ok g ∧ f.AlikeSaveSpaces g := by
  -- the other text denotes the frame with the same words and body and with its own header lines
  have denotes := Frame.denotes_of_parse read
  let g : Frame := ⟨text'.version, text'.command, insertLines .empty text'.lines, f.body⟩
  have found (key : Bytes) : g.header? key = lastValue key text'.lines :=
    Frame.get?_insertLines_empty text'.lines key
  have values (key : Bytes) :
      (f.header? key).map Bytes.trimSpaces = (g.header? key).map Bytes.trimSpaces := by
    rw [denotes.headers, found, alike.values]
  have body : BodyFor (g.header? Key.contentLength) text'.following g.body :=
    alike.following ▸ bodyFor_of_trimmed (values _) denotes.body
  exact ⟨g, Frame.parse_of_text ⟨rfl, rfl, found, body⟩, denotes.version.trans alike.version,
    denotes.command.trans alike.command, values, rfl⟩

namespace Spaced

variable {octets octets' : Bytes} (spaced : Spaced octets octets')
include spaced

/-- With more spaces around its words a frame is read as the same frame, save for spaces at the ends
of its values. -/
theorem exists_parse {f : Frame} (read : Frame.parse octets = .ok f) :
    ∃ g, Frame.parse octets' = .ok g ∧ f.AlikeSaveSpaces g := by
  obtain ⟨text, text', rfl, rfl, more⟩ := spaced
  exact more.alike.exists_parse read

/-- And with fewer. -/
theorem exists_parse_back {g : Frame} (read : Frame.parse octets' = .ok g) :
    ∃ f, Frame.parse octets = .ok f ∧ g.AlikeSaveSpaces f := by
  obtain ⟨text, text', rfl, rfl, more⟩ := spaced
  exact more.alike.symm.exists_parse read

end Spaced

end SpeechClient.Wire
