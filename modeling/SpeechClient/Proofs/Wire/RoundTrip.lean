import SpeechClient.Proofs.Wire.Canonical

/-!
# Writing a frame and reading it back

A frame can hold octets that the wire cannot carry, or declare a length that is not its body's.
`Frame.WireSafe` says which frames are free of that; they are the ones that are read back as they
were written, and the only ones that reading ever gives.

- `Frame.parse_toBytes_eq_ok_iff`: reading undoes writing on the safe frames.
- `Frame.toBytes_eq_iff_canonical`: writing undoes reading on the canonical texts.
-/

namespace SpeechClient.Wire

namespace Frame

/-- The frame can be told from its octets: names and values consist of what the scanner takes as
such, and the declared length is the body's. -/
structure WireSafe (f : Frame) : Prop where
  version : IsName f.version
  command : IsName f.command
  headers : ∀ key value, f.header? key = some value → IsName key ∧ IsValue value
  length : match f.header? Key.contentLength with
    | none => f.body = []
    | some value => DeclaresLength value f.body.length ∧ f.body.length < UInt64.size

/-! ## What is read is safe -/

theorem wireSafe_of_denotes {text : FrameText} {f : Frame} (denotes : text.Denotes f) :
    f.WireSafe where
  version := denotes.version ▸ text.version_isName
  command := denotes.command ▸ text.command_isName
  headers key value found := by
    rw [denotes.headers] at found
    obtain ⟨line, search, rfl⟩ := Option.map_eq_some_iff.1 found
    obtain rfl : line.key = key := by simpa using List.find?_some search
    exact ⟨line.key_isName, line.value_isValue⟩
  length := by
    have body := denotes.body
    cases declared : f.header? Key.contentLength with
    | none =>
      rw [declared] at body
      exact body
    | some value =>
      rw [declared] at body
      obtain ⟨n, declares, bound, ⟨rfl, empty⟩ | ⟨-, rest, -, enough, cut⟩⟩ := body
      · rw [empty]
        exact ⟨declares, bound⟩
      · have length : f.body.length = n := by rw [cut, List.length_take, Nat.min_eq_left enough]
        rw [length]
        exact ⟨declares, bound⟩

/-! ## What is safe is read back -/

theorem exists_lines (entries : List (Bytes × Bytes))
    (safe : ∀ e ∈ entries, IsName e.1 ∧ IsValue e.2) :
    ∃ lines : List LineText, entriesOf lines = entries ∧ ∀ line ∈ lines, line.Plain := by
  induction entries with
  | nil => exact ⟨[], rfl, nofun⟩
  | cons e entries ih =>
    obtain ⟨lines, same, plain⟩ := ih fun e member => safe e (List.mem_cons_of_mem _ member)
    obtain ⟨key, value⟩ := safe e List.mem_cons_self
    refine ⟨⟨0, e.1, 0, 0, e.2, key, value⟩ :: lines, by simp [same], ?_⟩
    exact List.forall_mem_cons.2 ⟨⟨rfl, rfl, rfl⟩, plain⟩

theorem bodyFor_of_wireSafe {f : Frame} (safe : f.WireSafe) (following : Option Bytes)
    (rest : f.body ≠ [] → following = some f.body) :
    BodyFor (f.header? Key.contentLength) following f.body := by
  have length := safe.length
  cases declared : f.header? Key.contentLength with
  | none =>
    rw [declared] at length
    exact length
  | some value =>
    rw [declared] at length
    obtain ⟨declares, bound⟩ := length
    refine ⟨f.body.length, declares, bound, ?_⟩
    by_cases empty : f.body = []
    · exact .inl ⟨by simp [empty], empty⟩
    · exact .inr ⟨List.length_pos_iff.2 empty, f.body, rest empty, Nat.le_refl _, by simp⟩

theorem exists_canonical_of_wireSafe {f : Frame} (safe : f.WireSafe) :
    ∃ text : FrameText, text.Canonical ∧ text.Denotes f := by
  obtain ⟨lines, same, plain⟩ := exists_lines f.headers.entries fun e member =>
    safe.headers e.1 e.2 (Headers.get?_eq_some_iff.2 member)
  have ascending : lines.Pairwise fun a b => a.key < b.key :=
    pairwise_entriesOf.1 (same ▸ f.headers.ascending)
  have found (key : Bytes) : f.header? key = lastValue key lines := by
    rw [lastValue_eq_lookup key ascending, same]
    rfl
  -- The blank line is written only before a body.
  let ending : HeadersEnd := if f.body = [] then .input 0 else .blankLine 0 f.body
  have exact : ending.Exact (lastValue Key.contentLength lines) := by
    have length := safe.length
    rw [found] at length
    cases declared : lastValue Key.contentLength lines with
    | none =>
      rw [declared] at length
      exact if_pos length
    | some value =>
      rw [declared] at length
      refine ⟨f.body.length, length.1, length.2, ?_⟩
      by_cases empty : f.body = []
      · exact .inl ⟨by simp [empty], if_pos empty⟩
      · exact .inr ⟨List.length_pos_iff.2 empty, f.body, rfl, if_neg empty⟩
  let headers : HeadersText := ⟨lines, ending⟩
  have canonical : headers.Canonical := ⟨plain, ascending, exact⟩
  let text : FrameText :=
    { blankLines := [], indent := 0, versionGap := 0, version := f.version, commandGap := 0
      command := f.command, trailing := 0, headers := some headers
      version_isName := safe.version, command_isName := safe.command }
  have sameLines : text.lines = lines := canonical.allLines_eq
  refine ⟨text, ⟨rfl, rfl, rfl, rfl, rfl, headers, rfl, canonical⟩, rfl, rfl, ?_, ?_⟩
  · rw [sameLines]
    exact found
  · refine bodyFor_of_wireSafe safe _ fun nonempty => ?_
    simp [text, headers, ending, nonempty, FrameText.following, HeadersText.following]

theorem exists_text_of_wireSafe {f : Frame} (safe : f.WireSafe) :
    ∃ text : FrameText, text.octets = f.toBytes ∧ text.Denotes f := by
  obtain ⟨text, canonical, denotes⟩ := exists_canonical_of_wireSafe safe
  exact ⟨text, canonical.octets_eq_toBytes denotes, denotes⟩

/-- Reading undoes writing exactly on the safe frames. -/
theorem parse_toBytes_eq_ok_iff (f : Frame) : parse f.toBytes = .ok f ↔ f.WireSafe := by
  constructor
  · intro read
    obtain ⟨text, -, denotes⟩ := parse_sound read
    exact wireSafe_of_denotes denotes
  · intro safe
    obtain ⟨text, octets, denotes⟩ := exists_text_of_wireSafe safe
    exact octets ▸ parse_of_text denotes

/-! ## What is read is written in its normal form -/

/-- A frame that was read is written as octets that are read as the same frame.  They are the octets
that it was read from exactly if a canonical text has these. -/
theorem toBytes_eq_iff_canonical {input : Bytes} {f : Frame} (read : parse input = .ok f) :
    parse f.toBytes = .ok f ∧
      (f.toBytes = input ↔ ∃ text : FrameText, text.octets = input ∧ text.Canonical) := by
  obtain ⟨_, -, denoted⟩ := parse_sound read
  obtain ⟨text, canonical, denotes⟩ := exists_canonical_of_wireSafe (wireSafe_of_denotes denoted)
  have written := canonical.octets_eq_toBytes denotes
  refine ⟨written ▸ parse_of_text denotes, ?_, ?_⟩
  · rintro rfl
    exact ⟨text, written, canonical⟩
  · rintro ⟨text, rfl, canonical⟩
    -- The text may be another one, but reading gives one frame only.
    obtain ⟨g, denotes⟩ := canonical.exists_denoted
    have same : f = g := Except.ok.inj (read.symm.trans (parse_of_text denotes))
    rw [same, canonical.octets_eq_toBytes denotes]

/-- A blank line in front, spaces around a colon, a key out of order and a key that comes twice, and
octets behind the body: nothing of that is written again. -/
theorem toBytes_eq_iff_canonical_loose :
    let loose := utf8 "\r\nASR 2.4 PING\r\nB : 1\r\nContent-Length:2\r\nB:3\r\nA:\r\n\r\nokay"
    let tidy := utf8 "ASR 2.4 PING\r\nA:\r\nB:3\r\nContent-Length:2\r\n\r\nok"
    (¬∃ text : FrameText, text.octets = loose ∧ text.Canonical) ∧
      ∃ text : FrameText, text.octets = tidy ∧ text.Canonical := by
  intro loose tidy
  let f : Frame :=
    { (((Frame.new protocolVersion (utf8 "PING")).setHeader (utf8 "A") []).setHeader (utf8 "B")
        (utf8 "3")).setHeader Key.contentLength (utf8 "2") with body := utf8 "ok" }
  have readLoose : parse loose = .ok f := by decide +kernel
  have readTidy : parse tidy = .ok f := by decide +kernel
  have written : f.toBytes = tidy := by decide +kernel
  refine ⟨fun canonical => ?_, (toBytes_eq_iff_canonical readTidy).2.1 written⟩
  have same := (toBytes_eq_iff_canonical readLoose).2.2 canonical
  exact absurd (written.symm.trans same) (by decide +kernel)

end Frame

end SpeechClient.Wire
