import SpeechClient.Proofs.Wire.Parsing

/-!
# Where a frame ends

A blank line ends the head of a frame, and the length declared in the head says how much of what
follows is the body.  So octets behind a frame change nothing, and what is left of a frame that was
cut off is never read as a frame with another body.

- `IsHead`: the octets of a frame up to its blank line, and with it.
- `IsHead.eq_of_append_eq`: no head begins with another head.
- `Frame.parse_of_isHead`: what more octets, and what fewer, do to the reading of a frame.
-/

namespace SpeechClient.Wire

/-! ## Texts with something else behind the blank line -/

def HeadersEnd.withRest (rest : Bytes) : HeadersEnd → HeadersEnd
  | .blankLine indent _ => .blankLine indent rest
  | ending => ending

def HeadersText.withRest (rest : Bytes) (text : HeadersText) : HeadersText :=
  { text with ending := text.ending.withRest rest }

namespace FrameText

def withRest (rest : Bytes) (text : FrameText) : FrameText :=
  { text with headers := text.headers.map (·.withRest rest) }

variable {text : FrameText} {rest : Bytes}

@[simp] theorem lines_withRest (rest : Bytes) (text : FrameText) :
    (text.withRest rest).lines = text.lines := by
  cases shape : text.headers with
  | none => simp [lines, withRest, shape]
  | some headers =>
    obtain ⟨lines, ending⟩ := headers
    cases ending <;>
      simp [FrameText.lines, withRest, shape, HeadersText.withRest, HeadersEnd.withRest,
        HeadersText.allLines]

/-- A text has something behind its blank line only if it has a blank line. -/
theorem exists_blankLine (follows : text.following = some rest) :
    ∃ lines indent, text.headers = some ⟨lines, .blankLine indent rest⟩ := by
  cases shape : text.headers with
  | none => simp [following, shape] at follows
  | some headers =>
    obtain ⟨lines, ending⟩ := headers
    cases ending with
    | blankLine indent other =>
      obtain rfl : other = rest := by
        simpa [following, shape, HeadersText.following] using follows
      exact ⟨lines, indent, rfl⟩
    | input indent => simp [following, shape, HeadersText.following] at follows
    | openLine line => simp [following, shape, HeadersText.following] at follows

theorem withRest_self (follows : text.following = some rest) : text.withRest rest = text := by
  obtain ⟨lines, indent, shape⟩ := exists_blankLine follows
  cases text
  cases shape
  rfl

theorem following_withRest (follows : text.following = some rest) (other : Bytes) :
    (text.withRest other).following = some other := by
  obtain ⟨lines, indent, shape⟩ := exists_blankLine follows
  simp [following, withRest, shape, HeadersText.withRest, HeadersEnd.withRest,
    HeadersText.following]

theorem octets_withRest (follows : text.following = some rest) (other : Bytes) :
    (text.withRest other).octets = (text.withRest []).octets ++ other := by
  obtain ⟨lines, indent, shape⟩ := exists_blankLine follows
  simp [octets, withRest, shape, HeadersText.withRest, HeadersEnd.withRest, tailOctets,
    HeadersText.octets, HeadersEnd.octets]

/-- Where the blank line of a text is, its octets tell. -/
theorem following_eq_of_octets_eq {other : FrameText} (same : text.octets = other.octets) :
    text.following = other.following := by
  obtain ⟨c₀, c₁, c₂, first, second, third, fourth⟩ := Frame.parts_of_text text
  obtain ⟨d₀, d₁, d₂, first', second', third', fourth'⟩ := Frame.parts_of_text other
  rw [same, first', Except.ok.injEq, Prod.mk.injEq] at first
  obtain ⟨-, rfl⟩ := first
  rw [second', Except.ok.injEq, Prod.mk.injEq] at second
  obtain ⟨-, rfl⟩ := second
  rw [third', Except.ok.injEq, Prod.mk.injEq] at third
  obtain ⟨-, rfl⟩ := third
  rw [fourth', Except.ok.injEq, Prod.mk.injEq] at fourth
  exact fourth.2.symm

end FrameText

/-! ## Heads -/

/-- The octets of a text up to the end of its blank line. -/
def IsHead (head : Bytes) : Prop :=
  ∃ text : FrameText, text.following = some [] ∧ text.octets = head

theorem exists_head {text : FrameText} {rest : Bytes} (follows : text.following = some rest) :
    ∃ head, IsHead head ∧ text.octets = head ++ rest := by
  refine ⟨_, ⟨text.withRest [], FrameText.following_withRest follows [], rfl⟩, ?_⟩
  rw [← FrameText.octets_withRest follows, FrameText.withRest_self follows]

namespace IsHead

variable {head : Bytes} (ended : IsHead head)
include ended

/-- Whatever stands behind a head, it is the head of a text of the grammar. -/
theorem exists_text : ∃ text : FrameText, ∀ rest,
    (text.withRest rest).octets = head ++ rest ∧ (text.withRest rest).following = some rest := by
  obtain ⟨text, follows, rfl⟩ := ended
  refine ⟨text, fun rest => ⟨?_, FrameText.following_withRest follows rest⟩⟩
  rw [FrameText.octets_withRest follows, FrameText.withRest_self follows]

/-- Octets begin with one head at most. -/
theorem eq_of_append_eq {head' rest rest' : Bytes} (ended' : IsHead head')
    (same : head ++ rest = head' ++ rest') : head = head' := by
  obtain ⟨text, texts⟩ := ended.exists_text
  obtain ⟨text', texts'⟩ := ended'.exists_text
  have sameOctets : (text.withRest rest).octets = (text'.withRest rest').octets := by
    rw [(texts rest).1, same, (texts' rest').1]
  have sameRest := FrameText.following_eq_of_octets_eq sameOctets
  rw [(texts rest).2, (texts' rest').2] at sameRest
  obtain rfl := Option.some.inj sameRest
  exact List.append_cancel_right same

/-- The head says all of a frame but its body, which is cut off from what follows. -/
theorem exists_parse_eq : ∃ version command headers,
    (∀ value, headers.get? Key.contentLength = some value → IsValue value) ∧
    ∀ rest, Frame.parse (head ++ rest) = do
      let length ← Frame.declaredLength headers
      let body ← Frame.takeBody length (some rest)
      return { version, command, headers, body } := by
  obtain ⟨text, texts⟩ := ended.exists_text
  refine ⟨text.version, text.command, insertLines .empty text.lines, ?_, ?_⟩
  · intro value declared
    rw [Frame.get?_insertLines_empty] at declared
    exact Frame.isValue_of_lastValue declared
  · intro rest
    obtain ⟨c₀, c₁, c₂, first, second, third, fourth⟩ := Frame.parts_of_text (text.withRest rest)
    rw [FrameText.lines_withRest, (texts rest).2] at fourth
    rw [(texts rest).1] at first
    exact Frame.parse_of_parts first second third fourth

end IsHead

namespace Frame

/-- A frame with a body has a head, and its body stands behind it. -/
theorem exists_head_of_parse {input : Bytes} {f : Frame} (read : parse input = .ok f)
    (nonempty : f.body ≠ []) : ∃ head rest, IsHead head ∧ input = head ++ rest := by
  obtain ⟨text, rfl, denotes⟩ := parse_sound read
  have body := denotes.body
  unfold BodyFor at body
  split at body
  · exact absurd body nonempty
  · obtain ⟨n, -, -, ⟨-, empty⟩ | ⟨-, rest, follows, -⟩⟩ := body
    · exact absurd empty nonempty
    · obtain ⟨head, ended, split⟩ := exists_head follows
      exact ⟨head, rest, ended, split⟩

/-- Any length but zero has been declared in the headers. -/
theorem exists_declares {headers : Headers} {length : Nat}
    (valid : ∀ value, headers.get? Key.contentLength = some value → IsValue value)
    (declared : declaredLength headers = .ok length) (positive : 0 < length) :
    ∃ value, headers.get? Key.contentLength = some value ∧ DeclaresLength value length := by
  cases found : headers.get? Key.contentLength with
  | none =>
    rw [declaredLength, found] at declared
    cases declared
    omega
  | some value =>
    exact ⟨value, rfl, ((declaredLength_eq_ok_iff found (valid value found)).1 declared).1⟩

/-- A frame whose head is ended by a blank line is read from the same octets with more behind them
just as well.  If nothing stands behind its body, and it has one, fewer octets are never read as a
frame with a body; where all of the head is left, it is reported how much of the body is missing. -/
theorem parse_of_isHead {head rest : Bytes} {f : Frame} (ended : IsHead head)
    (read : parse (head ++ rest) = .ok f) :
    (∀ more, parse (head ++ rest ++ more) = .ok f) ∧
    (rest = f.body → f.body ≠ [] → ∀ part, part <+: head ++ rest → part ≠ head ++ rest →
      (∀ g, parse part = .ok g → g.body = []) ∧
      (head <+: part → ∃ value length, f.header? Key.contentLength = some value ∧
        DeclaresLength value length ∧
        parse part = .error (.truncatedBody length (part.length - head.length)))) := by
  obtain ⟨version, command, headers, valid, parses⟩ := ended.exists_parse_eq
  rw [parses] at read
  obtain ⟨length, declared, read⟩ := bind_eq_ok_iff.1 read
  obtain ⟨body, taken, read⟩ := bind_eq_ok_iff.1 read
  cases read
  obtain ⟨enough, cut⟩ := takeBody_eq_ok_iff.1 taken
  rw [Option.getD_some] at enough cut
  refine ⟨fun more => ?_, ?_⟩
  · have taken : takeBody length (some (rest ++ more)) = .ok body := by
      refine takeBody_eq_ok_iff.2 ⟨?_, ?_⟩
      · rw [Option.getD_some, List.length_append]
        omega
      · rw [Option.getD_some, List.take_append_of_le_length enough, cut]
    rw [List.append_assoc, parses, declared]
    simp [taken, bind, Except.bind, pure, Except.pure]
  · rintro exact nonempty part shorter proper
    obtain rfl : rest = body := exact
    have whole : length = rest.length := by
      rw [cut, List.length_take]
      omega
    have truncated : head <+: part →
        parse part = .error (.truncatedBody length (part.length - head.length)) := by
      rintro ⟨present, rfl⟩
      have short : present.length < length := by
        obtain ⟨missing, split⟩ := shorter
        rw [List.append_assoc, List.append_cancel_left_eq] at split
        have some : missing ≠ [] := by
          rintro rfl
          exact proper (by rw [← split, List.append_nil])
        rw [whole, ← split, List.length_append]
        exact Nat.lt_add_of_pos_right (List.length_pos_iff.2 some)
      rw [parses, declared]
      simp [takeBody, short, bind, Except.bind]
    refine ⟨fun g readPart => ?_, fun present => ?_⟩
    -- A body would stand behind a head, which can only be that of the whole frame.
    · by_contra hasBody
      obtain ⟨head', rest', ended', rfl⟩ := exists_head_of_parse readPart hasBody
      obtain ⟨missing, split⟩ := shorter
      rw [List.append_assoc] at split
      have same := ended'.eq_of_append_eq ended split
      rw [truncated (same ▸ List.prefix_append ..)] at readPart
      cases readPart
    · have positive : 0 < length := whole ▸ List.length_pos_iff.2 nonempty
      obtain ⟨value, found, declares⟩ := exists_declares valid declared positive
      exact ⟨value, length, found, declares, truncated present⟩

/-- Behind the body more octets are not looked at; without its last octet the body is reported to be
truncated. -/
theorem parse_of_isHead_short :
    let head := utf8 "ASR 2.4 PING\r\nContent-Length: 2\r\n\r\n"
    let f := (Frame.new protocolVersion (utf8 "PING")).setBody (utf8 "ok")
    IsHead head ∧ parse (head ++ f.body) = .ok f ∧ parse (head ++ f.body ++ utf8 "!") = .ok f ∧
      ∃ value length, f.header? Key.contentLength = some value ∧ DeclaresLength value length ∧
        parse (head ++ utf8 "o") = .error (.truncatedBody length 1) := by
  intro head f
  let line : LineText :=
    ⟨0, Key.contentLength, 0, 1, utf8 "2", by decide +kernel, by decide +kernel⟩
  let text : FrameText :=
    { blankLines := [], indent := 0, versionGap := 0, version := protocolVersion, commandGap := 0
      command := utf8 "PING", trailing := 0, headers := some ⟨[line], .blankLine 0 []⟩
      version_isName := by decide +kernel, command_isName := by decide +kernel }
  have ended : IsHead head := ⟨text, rfl, by decide +kernel⟩
  have read : parse (head ++ f.body) = .ok f := by decide +kernel
  obtain ⟨longer, shorter⟩ := parse_of_isHead ended read
  refine ⟨ended, read, longer _, ?_⟩
  have part : head ++ utf8 "o" <+: head ++ f.body := by decide +kernel
  exact (shorter rfl (by decide +kernel) _ part (by decide +kernel)).2 (List.prefix_append ..)

end Frame

end SpeechClient.Wire
