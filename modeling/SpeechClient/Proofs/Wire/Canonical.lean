import SpeechClient.Proofs.Wire.Parsing

/-!
# Canonical texts

Many texts of the grammar denote one frame: spaces and blank lines may stand around its parts, the
header lines may come in any order and repeat a key, and octets behind the body are not looked at.
A text is canonical if it has nothing of that, and a frame is written as no other text.

- `FrameText.Canonical`: the texts with nothing in them that reading drops.
- `FrameText.Canonical.exists_denoted`: a canonical text denotes a frame.
- `FrameText.Canonical.octets_eq_toBytes`: and its octets are those that the frame is written as.
-/

namespace SpeechClient.Wire

/-- No spaces stand before the key or around the colon. -/
structure LineText.Plain (line : LineText) : Prop where
  indent : line.indent = 0
  beforeColon : line.beforeColon = 0
  afterColon : line.afterColon = 0

/-- The lines are the last thing there is, unless they declare a body: then a blank line follows,
and exactly as many octets as are declared. -/
def HeadersEnd.Exact (declared : Option Bytes) (ending : HeadersEnd) : Prop :=
  match declared with
  | none => ending = .input 0
  | some value =>
    ∃ n, DeclaresLength value n ∧ n < UInt64.size ∧
      (n = 0 ∧ ending = .input 0 ∨
        0 < n ∧ ∃ body, body.length = n ∧ ending = .blankLine 0 body)

structure HeadersText.Canonical (text : HeadersText) : Prop where
  plain : ∀ line ∈ text.lines, line.Plain
  /-- In particular no key comes twice. -/
  ascending : text.lines.Pairwise fun a b => a.key < b.key
  ending : text.ending.Exact (lastValue Key.contentLength text.lines)

/-- One space before version and command each, a break behind the status line, and nothing else that
is no part of the frame. -/
structure FrameText.Canonical (text : FrameText) : Prop where
  blankLines : text.blankLines = []
  indent : text.indent = 0
  versionGap : text.versionGap = 0
  commandGap : text.commandGap = 0
  trailing : text.trailing = 0
  headers : ∃ headers, text.headers = some headers ∧ headers.Canonical

/-! ## Lines in order -/

def entriesOf (lines : List LineText) : List (Bytes × Bytes) :=
  lines.map fun line => (line.key, line.value)

@[simp] theorem entriesOf_cons (line : LineText) (lines : List LineText) :
    entriesOf (line :: lines) = (line.key, line.value) :: entriesOf lines := rfl

theorem pairwise_entriesOf {lines : List LineText} :
    (entriesOf lines).Pairwise (fun a b => a.1 < b.1) ↔ lines.Pairwise fun a b => a.key < b.key :=
  List.pairwise_map

theorem lastValue_eq_lookup (key : Bytes) {lines : List LineText}
    (ascending : lines.Pairwise fun a b => a.key < b.key) :
    lastValue key lines = (entriesOf lines).lookup key := by
  induction lines with
  | nil => rfl
  | cons line lines ih =>
    obtain ⟨before, ascending⟩ := List.pairwise_cons.1 ascending
    rw [lastValue_cons, ih ascending, entriesOf_cons, Headers.lookup_cons_eq_ite]
    by_cases same : key = line.key
    · have absent : (entriesOf lines).lookup key = none := by
        rw [Option.eq_none_iff_forall_ne_some]
        intro value found
        have member := (Headers.lookup_eq_some_iff (pairwise_entriesOf.2 ascending)).1 found
        obtain ⟨other, later, sameEntry⟩ := List.mem_map.1 member
        have less : line.key < other.key := before other later
        rw [(Prod.mk.inj sameEntry).1, ← same] at less
        exact List.lt_irrefl key less
      simp [same, same ▸ absent]
    · simp [same]

theorem octets_of_plain {lines : List LineText} (plain : ∀ line ∈ lines, line.Plain) :
    lines.flatMap (fun line => line.octets ++ Bytes.lineBreak) =
      (entriesOf lines).flatMap Frame.headerLine := by
  induction lines with
  | nil => rfl
  | cons line lines ih =>
    obtain ⟨⟨indent, beforeColon, afterColon⟩, plain⟩ := List.forall_mem_cons.1 plain
    rw [entriesOf_cons, List.flatMap_cons, List.flatMap_cons, ih plain]
    simp [LineText.octets, Frame.headerLine, indent, beforeColon, afterColon]

/-! ## Canonical texts and their frames -/

namespace HeadersText.Canonical

variable {text : HeadersText} (canonical : text.Canonical)
include canonical

theorem allLines_eq : text.allLines = text.lines := by
  have exact := canonical.ending
  unfold HeadersEnd.Exact at exact
  split at exact
  · simp [allLines, exact]
  · obtain ⟨n, -, -, ⟨-, same⟩ | ⟨-, body, -, same⟩⟩ := exact
    · simp [allLines, same]
    · simp [allLines, same]

/-- What is declared is what stands there. -/
theorem exists_body :
    ∃ body, BodyFor (lastValue Key.contentLength text.allLines) text.following body ∧
      text.ending.octets = if body.isEmpty then [] else Bytes.lineBreak ++ body := by
  have exact := canonical.ending
  rw [canonical.allLines_eq]
  cases declared : lastValue Key.contentLength text.lines with
  | none =>
    rw [declared] at exact
    have same : text.ending = .input 0 := exact
    exact ⟨[], rfl, by simp [same, HeadersEnd.octets]⟩
  | some value =>
    rw [declared] at exact
    obtain ⟨n, declares, bound, ⟨zero, same⟩ | ⟨positive, body, length, same⟩⟩ := exact
    · exact ⟨[], ⟨n, declares, bound, .inl ⟨zero, rfl⟩⟩, by simp [same, HeadersEnd.octets]⟩
    · have nonempty : body ≠ [] := List.length_pos_iff.1 (length ▸ positive)
      have following : text.following = some body := by simp [HeadersText.following, same]
      refine ⟨body, ⟨n, declares, bound, .inr ⟨positive, body, following, length.ge, ?_⟩⟩, ?_⟩
      · rw [← length, List.take_length]
      · simp [same, HeadersEnd.octets, nonempty]

end HeadersText.Canonical

theorem bodyFor_unique {declared following : Option Bytes} {a b : Bytes}
    (first : BodyFor declared following a) (second : BodyFor declared following b) : a = b := by
  cases declared with
  | none => exact first.trans second.symm
  | some value =>
    obtain ⟨n, declares, -, first⟩ := first
    obtain ⟨m, declares', -, second⟩ := second
    have same : n = m := by
      rw [← natural?_trimSpaces_eq_some_iff] at declares declares'
      exact Option.some.inj (declares.symm.trans declares')
    subst same
    obtain ⟨zero, rfl⟩ | ⟨positive, rest, found, -, rfl⟩ := first
    · obtain ⟨-, rfl⟩ | ⟨positive, -⟩ := second
      · rfl
      · omega
    · obtain ⟨zero, -⟩ | ⟨-, rest', found', -, rfl⟩ := second
      · omega
      · rw [Option.some.inj (found.symm.trans found')]

namespace FrameText.Canonical

variable {text : FrameText} (canonical : text.Canonical)
include canonical

theorem exists_denoted : ∃ f : Frame, text.Denotes f := by
  obtain ⟨headers, shape, canonicalHeaders⟩ := canonical.headers
  obtain ⟨body, bodyFor, -⟩ := canonicalHeaders.exists_body
  have found (key : Bytes) : (insertLines .empty text.lines).get? key = lastValue key text.lines :=
    Frame.get?_insertLines_empty text.lines key
  refine ⟨⟨text.version, text.command, insertLines .empty text.lines, body⟩, rfl, rfl, found, ?_⟩
  rw [Frame.header?, found]
  simpa [FrameText.lines, FrameText.following, shape] using bodyFor

theorem octets_eq_toBytes {f : Frame} (denotes : text.Denotes f) : text.octets = f.toBytes := by
  obtain ⟨headers, shape, canonicalHeaders⟩ := canonical.headers
  obtain ⟨body, bodyFor, ending⟩ := canonicalHeaders.exists_body
  have lines : text.lines = headers.lines := by
    simp [FrameText.lines, shape, canonicalHeaders.allLines_eq]
  have sameBody : f.body = body := by
    have denoted := denotes.body
    rw [denotes.headers] at denoted
    refine bodyFor_unique denoted ?_
    simpa [FrameText.lines, FrameText.following, shape] using bodyFor
  have entries : f.headers.entries = entriesOf headers.lines := by
    have ascending := canonicalHeaders.ascending
    have same : f.headers = ⟨entriesOf headers.lines, pairwise_entriesOf.2 ascending⟩ := by
      refine Headers.ext_get? fun key => ?_
      have found := denotes.headers key
      rw [lines, lastValue_eq_lookup key ascending] at found
      exact found
    rw [same]
  simp [FrameText.octets, blankOctets, tailOctets, HeadersText.octets, Frame.toBytes,
    Frame.statusLine, canonical.blankLines, canonical.indent, canonical.versionGap,
    canonical.commandGap, canonical.trailing, shape, ending, sameBody, entries,
    octets_of_plain canonicalHeaders.plain, denotes.version, denotes.command]

end FrameText.Canonical

end SpeechClient.Wire
