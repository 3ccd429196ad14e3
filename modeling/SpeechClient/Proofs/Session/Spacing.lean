import SpeechClient.Proofs.Session.Flags
import SpeechClient.Proofs.Wire.Spacing

/-!
# Spaces around the words of an event

A value keeps the spaces behind it until it is looked at, and whatever looks at one trims it first:
the five values of a reply, the two statuses of a result, the time stamp of an utterance and the
declared length of a body.  So no event hangs on spaces that the grammar leaves open.

- `Inbound.classify_of_spaced`: more spaces around the words of a frame change nothing.
-/

namespace SpeechClient.Inbound

open Wire

variable {f g : Frame}

theorem headerValue_eq_getD (f : Frame) (key : Bytes) :
    headerValue f key = ((f.header? key).map Bytes.trimSpaces).getD [] := by
  unfold headerValue
  cases f.header? key <;> rfl

theorem headerValue_of_alike (alike : f.AlikeSaveSpaces g) (key : Bytes) :
    headerValue f key = headerValue g key := by
  rw [headerValue_eq_getD, headerValue_eq_getD, alike.values]

theorem classify_of_alike (alike : f.AlikeSaveSpaces g) (protocol : ServerProtocol) :
    classify protocol f = classify protocol g := by
  have status := headerValue_of_alike alike Key.resultStatus
  refine classify_congr alike.command (fun key _ => headerValue_of_alike alike key) ?_
  simp only [outcomeOf, status, alike.body]

/-- Octets with more spaces around the words of the status line, or around the keys and values of
the header lines, are read if they are read without; and then as a frame with the same words, the
same trimmed values and the same body, which means the same event under both protocols. -/
theorem classify_of_spaced {octets octets' : Bytes} (spaced : Spaced octets octets') :
    (∀ f, Frame.parse octets = .ok f →
      ∃ g, Frame.parse octets' = .ok g ∧ g.version = f.version ∧ g.command = f.command ∧
        g.body = f.body ∧ (∀ key, headerValue g key = headerValue f key) ∧
        ∀ protocol, classify protocol g = classify protocol f) ∧
    ∀ g, Frame.parse octets' = .ok g → ∃ f, Frame.parse octets = .ok f := by
  refine ⟨fun f read => ?_, fun g read => ?_⟩
  · obtain ⟨g, read', alike⟩ := spaced.exists_parse read
    exact ⟨g, read', alike.version.symm, alike.command.symm, alike.body.symm,
      fun key => (headerValue_of_alike alike key).symm,
      fun protocol => (classify_of_alike alike protocol).symm⟩
  · obtain ⟨f, read', -⟩ := spaced.exists_parse_back read
    exact ⟨f, read'⟩

/-- A reply with spaces at all places but in its body: the message is the keyword, alone in the one
frame and with a space behind it in the other. -/
theorem classify_of_spaced_reply :
    let octets := utf8
      "ASR 2.4 RESPONSE\r\nResult:SUCCESS\r\nMessage:ASR\r\nContent-Length:3\r\n\r\na b"
    let octets' := utf8 ("ASR  2.4   RESPONSE\r\n Result : SUCCESS \r\nMessage: ASR \r\n" ++
      "Content-Length : 3  \r\n\r\na b")
    Spaced octets octets' ∧
      ∃ f g, Frame.parse octets = .ok f ∧ Frame.parse octets' = .ok g ∧ g.body = f.body ∧ g ≠ f ∧
        ∀ protocol, classify protocol g = classify protocol f := by
  intro octets octets'
  let text : FrameText :=
    { blankLines := [], indent := 0, versionGap := 0, version := protocolVersion, commandGap := 0
      command := utf8 "RESPONSE", trailing := 0
      headers := some
        { lines :=
            [⟨0, Key.result, 0, 0, utf8 "SUCCESS", by decide +kernel, by decide +kernel⟩,
             ⟨0, Key.message, 0, 0, utf8 "ASR", by decide +kernel, by decide +kernel⟩,
             ⟨0, Key.contentLength, 0, 0, utf8 "3", by decide +kernel, by decide +kernel⟩]
          ending := .blankLine 0 (utf8 "a b") }
      version_isName := by decide +kernel, command_isName := by decide +kernel }
  let text' : FrameText :=
    { blankLines := [], indent := 0, versionGap := 1, version := protocolVersion, commandGap := 2
      command := utf8 "RESPONSE", trailing := 0
      headers := some
        { lines :=
            [⟨1, Key.result, 1, 1, utf8 "SUCCESS ", by decide +kernel, by decide +kernel⟩,
             ⟨0, Key.message, 0, 1, utf8 "ASR ", by decide +kernel, by decide +kernel⟩,
             ⟨0, Key.contentLength, 1, 1, utf8 "3  ", by decide +kernel, by decide +kernel⟩]
          ending := .blankLine 0 (utf8 "a b") }
      version_isName := by decide +kernel, command_isName := by decide +kernel }
  have spaced : Spaced octets octets' := by
    refine ⟨text, text', by decide +kernel, by decide +kernel, .nil, by decide, by decide, rfl,
      by decide, rfl, by decide, .some ⟨?_, .blankLine (by decide)⟩⟩
    refine .cons ⟨by decide, rfl, by decide, by decide, 1, by decide +kernel⟩ ?_
    refine .cons ⟨by decide, rfl, by decide, by decide, 1, by decide +kernel⟩ ?_
    exact .cons ⟨by decide, rfl, by decide, by decide, 2, by decide +kernel⟩ .nil
  have read : (Frame.parse octets).isOk = true := by decide +kernel
  have differ : (Frame.parse octets').toOption ≠ (Frame.parse octets).toOption := by decide +kernel
  cases parsed : Frame.parse octets with
  | error fault => simp [parsed, Except.isOk, Except.toBool] at read
  | ok f =>
    obtain ⟨g, parsed', -, -, body, -, event⟩ := (classify_of_spaced spaced).1 f parsed
    rw [parsed, parsed'] at differ
    exact ⟨spaced, f, g, rfl, parsed', body, fun same => differ (same ▸ rfl), event⟩

end SpeechClient.Inbound
