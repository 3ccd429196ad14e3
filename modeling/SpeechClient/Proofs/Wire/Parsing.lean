import SpeechClient.Proofs.Fallible
import SpeechClient.Proofs.Wire.HeaderLines
import SpeechClient.Proofs.Wire.Lookup

/-!
# Reading accepts the grammar

Blank lines, the status line, the header lines and the body are read one after another.  Each part
is read exactly where the grammar has it, so `Frame.parse` accepts the texts of the grammar that
denote a frame, and no others.

- `Frame.parse_sound`: what is read is denoted by a text with the same octets.
- `Frame.parse_of_text`: a text that denotes a frame is read as that frame.
-/

namespace SpeechClient.Wire

/-! ## The status line -/

namespace Cursor

theorem skipLineBreaks_sound {c c' : Cursor} {t : Token} (mode : c.inValue = false)
    (read : c.skipLineBreaks = .ok (t, c')) :
    ∃ (blankLines : List Nat) (d : Cursor),
      c.rest = blankOctets blankLines ++ d.rest ∧
      d.inValue = false ∧ d.Reads t c' := by
  fun_induction skipLineBreaks c with
  | case1 => cases read
  | case2 c c₁ first ih =>
    cases reads_sound first with
    | @lineBreak indent rest text =>
      obtain ⟨blankLines, d, blanks, mode', reads⟩ := ih rfl read
      have same : rest = blankOctets blankLines ++ d.rest := blanks
      exact ⟨indent :: blankLines, d, by simp [text, same, blankOctets], mode', reads⟩
  | case3 c c₁ t other first =>
    cases read
    exact ⟨[], c, rfl, mode, reads_sound first⟩

theorem skipLineBreaks_of_text {blankLines : List Nat} {c : Cursor} {rest : Bytes}
    (mode : c.inValue = false)
    (text : c.rest = blankOctets blankLines ++ rest) :
    ∃ offset, c.skipLineBreaks = (⟨rest, offset, false⟩ : Cursor).skipLineBreaks := by
  induction blankLines generalizing c with
  | nil =>
    obtain ⟨_, offset, _⟩ := c
    cases mode
    cases text
    exact ⟨offset, rfl⟩
  | cons indent blankLines ih =>
    have breakText : c.rest =
        spaces indent ++ (Bytes.lineBreak ++ (blankOctets blankLines ++ rest)) := by
      simpa [blankOctets] using text
    have first := read_of_reads (.lineBreak breakText)
    obtain ⟨offset, skipped⟩ := ih (c := ⟨_, c.offset + indent + 2, false⟩) rfl rfl
    exact ⟨offset, by rw [skipLineBreaks, first]; exact skipped⟩

theorem readIdentifier_sound {c c' : Cursor} {name : Bytes} {expected : Expectation}
    (read : c.readIdentifier expected = .ok (name, c')) : c.read = .ok (.identifier name, c') := by
  unfold readIdentifier at read
  split at read
  · cases read
  next first => cases read; exact first
  · cases read

theorem readIdentifier_of_read {c c' : Cursor} {name : Bytes} (expected : Expectation)
    (read : c.read = .ok (.identifier name, c')) :
    c.readIdentifier expected = .ok (name, c') := by
  simp [readIdentifier, read]

end Cursor

namespace Frame

theorem boundary_tailOctets (headers : Option HeadersText) :
    Boundary isIdentifierByte (tailOctets headers) := by
  cases headers with
  | none => exact boundary_nil _
  | some headers => exact boundary_cons.2 (by decide)

theorem readHead_sound {c : Cursor} {headers : Headers} {following : Option Bytes}
    (read : readHead c = .ok (headers, following)) :
    ∃ trailing text, c.rest = spaces trailing ++ tailOctets text ∧
      headers = insertLines .empty ((text.map HeadersText.allLines).getD []) ∧
      following = text.bind HeadersText.following := by
  unfold readHead at read
  split at read
  · cases read
  next first =>
    cases read
    cases Cursor.reads_sound first with
    | @endOfInput indent text => exact ⟨indent, none, by simpa [tailOctets] using text, rfl, rfl⟩
  next c' first =>
    cases Cursor.reads_sound first with
    | @lineBreak indent rest text =>
      obtain ⟨block, octets, insertions, follows⟩ := Cursor.readHeaders_sound rfl read
      subst octets
      exact ⟨indent, some block, by simpa [tailOctets] using text, insertions, follows⟩
  · cases read

theorem readHead_of_text {c : Cursor} {trailing : Nat} {text : Option HeadersText}
    (octets : c.rest = spaces trailing ++ tailOctets text) :
    readHead c = .ok (insertLines .empty ((text.map HeadersText.allLines).getD []),
      text.bind HeadersText.following) := by
  cases text with
  | none =>
    have first := Cursor.read_of_reads (.endOfInput (by simpa [tailOctets] using octets))
    simp [readHead, first, insertLines]
  | some block =>
    have breakText : c.rest = spaces trailing ++ (Bytes.lineBreak ++ block.octets) := octets
    have first := Cursor.read_of_reads (.lineBreak breakText)
    simp only [readHead, first]
    exact Cursor.readHeaders_of_text _ rfl rfl

/-! ## The body -/

theorem dropPlus_trimSpaces {value : Bytes} (valid : IsValue value) :
    Numeral.dropPlus value.trimSpaces = value.trimSpaces := by
  -- The scanner takes no plus sign in a value, so the numeral has none either.
  have noPlus : (0x2b : UInt8) ∉ value.trimSpaces := by
    intro member
    have : (0x2b : UInt8) ∈ value := by
      have := List.mem_reverse.1 ((List.dropWhile_sublist _).subset (List.mem_reverse.1 member))
      exact (List.dropWhile_sublist _).subset this
    exact absurd (valid.1 _ this) (by decide)
  unfold Numeral.dropPlus
  split
  next rest shape => simp [shape] at noPlus
  · rfl

theorem declaredLength_eq_ok_iff {headers : Headers} {value : Bytes} {n : Nat}
    (declared : headers.get? Key.contentLength = some value) (valid : IsValue value) :
    declaredLength headers = .ok n ↔ DeclaresLength value n ∧ n < UInt64.size := by
  rw [declaredLength, declared, ← natural?_trimSpaces_eq_some_iff]
  dsimp only
  rw [Numeral.below?, dropPlus_trimSpaces valid]
  cases number : Numeral.natural? value.trimSpaces with
  | none => simp
  | some m =>
    by_cases bound : m < lengthLimit
    · have within : decide (m < lengthLimit) = true := decide_eq_true bound
      simp only [Option.filter_some, within, if_true, Except.ok.injEq, Option.some.injEq]
      exact ⟨fun same => ⟨same, same ▸ bound⟩, fun both => both.1⟩
    · have beyond : decide (m < lengthLimit) = false := decide_eq_false bound
      simp only [Option.filter_some, beyond, Bool.false_eq_true, if_false, reduceCtorEq,
        Option.some.injEq, false_iff]
      rintro ⟨rfl, within⟩
      exact bound within

theorem takeBody_eq_ok_iff {n : Nat} {following : Option Bytes} {body : Bytes} :
    takeBody n following = .ok body ↔
      n ≤ (following.getD []).length ∧ body = (following.getD []).take n := by
  simp only [takeBody]
  split
  next short => simp only [reduceCtorEq, false_iff]; omega
  next enough =>
    simp only [Except.ok.injEq]
    exact ⟨fun same => ⟨Nat.le_of_not_lt enough, same.symm⟩, fun both => both.2.symm⟩

theorem body_iff {headers : Headers} {following : Option Bytes} {body : Bytes}
    (valid : ∀ value, headers.get? Key.contentLength = some value → IsValue value) :
    (∃ n, declaredLength headers = .ok n ∧ takeBody n following = .ok body) ↔
      BodyFor (headers.get? Key.contentLength) following body := by
  cases declared : headers.get? Key.contentLength with
  | none =>
    have zero : declaredLength headers = .ok 0 := by rw [declaredLength, declared]
    simp [zero, BodyFor, takeBody_eq_ok_iff]
  | some value =>
    simp only [declaredLength_eq_ok_iff declared (valid value declared), takeBody_eq_ok_iff,
      BodyFor, and_assoc]
    refine exists_congr fun n => and_congr_right fun _ => and_congr_right fun _ => ?_
    -- Without a blank line nothing follows, and only zero octets can be cut off from nothing.
    cases n with
    | zero => simp
    | succ n => cases following <;> simp

/-! ## The frame -/

theorem octets_eq (text : FrameText) :
    text.octets = blankOctets text.blankLines ++
      (spaces text.indent ++ (keyword ++ (spaces (text.versionGap + 1) ++ (text.version ++
        (spaces (text.commandGap + 1) ++ (text.command ++
          (spaces text.trailing ++ tailOctets text.headers))))))) := by
  simp only [FrameText.octets, List.append_assoc]

theorem isValue_of_lastValue {key value : Bytes} {lines : List LineText}
    (last : lastValue key lines = some value) : IsValue value := by
  obtain ⟨line, -, rfl⟩ := Option.map_eq_some_iff.1 last
  exact line.value_isValue

theorem get?_insertLines_empty (lines : List LineText) (key : Bytes) :
    (insertLines .empty lines).get? key = lastValue key lines := by
  rw [get?_insertLines, Headers.get?_empty, Option.or_none]

theorem exists_gap {c : Cursor} {indent : Nat} {name rest : Bytes} (valid : IsName name)
    (text : c.rest = spaces indent ++ (name ++ rest))
    (boundary : Boundary isIdentifierByte c.rest) :
    ∃ gap, indent = gap + 1 := by
  cases indent with
  | succ gap => exact ⟨gap, rfl⟩
  | zero =>
    -- Without a space between them the scanner would have taken both words as one.
    obtain ⟨b, tail, rfl⟩ := List.exists_cons_of_ne_nil valid.1
    rw [text] at boundary
    have outside : isIdentifierByte b = false := boundary_cons.1 boundary
    simp [valid.2.1 b List.mem_cons_self] at outside

/-- Once the head is read, only the length and the body can still be wrong. -/
theorem parse_of_parts {input version command : Bytes} {c₀ c₁ c₂ : Cursor} {headers : Headers}
    {following : Option Bytes}
    (first : (⟨input, 0, false⟩ : Cursor).skipLineBreaks = .ok (.keyword, c₀))
    (second : c₀.read = .ok (.identifier version, c₁))
    (third : c₁.read = .ok (.identifier command, c₂))
    (fourth : readHead c₂ = .ok (headers, following)) :
    parse input = do
      let length ← declaredLength headers
      let body ← takeBody length following
      return { version, command, headers, body } := by
  have version := Cursor.readIdentifier_of_read .protocolVersion second
  have command := Cursor.readIdentifier_of_read .command third
  simp [parse, first, version, command, fourth, bind, Except.bind]

theorem parse_eq_ok_iff_parts {input : Bytes} {f : Frame} :
    parse input = .ok f ↔ ∃ c₀ c₁ c₂ following length,
      (⟨input, 0, false⟩ : Cursor).skipLineBreaks = .ok (.keyword, c₀) ∧
      c₀.read = .ok (.identifier f.version, c₁) ∧ c₁.read = .ok (.identifier f.command, c₂) ∧
      readHead c₂ = .ok (f.headers, following) ∧ declaredLength f.headers = .ok length ∧
      takeBody length following = .ok f.body := by
  constructor
  · intro read
    obtain ⟨⟨opening, c₀⟩, first, read⟩ := bind_eq_ok_iff.1 read
    obtain ⟨keyword, read⟩ := check_eq_ok_iff.1 read
    obtain rfl := not_ne_iff.1 keyword
    obtain ⟨⟨version, c₁⟩, second, read⟩ := bind_eq_ok_iff.1 read
    obtain ⟨⟨command, c₂⟩, third, read⟩ := bind_eq_ok_iff.1 read
    obtain ⟨⟨headers, following⟩, fourth, read⟩ := bind_eq_ok_iff.1 read
    obtain ⟨length, declared, read⟩ := bind_eq_ok_iff.1 read
    obtain ⟨body, taken, read⟩ := bind_eq_ok_iff.1 read
    cases read
    exact ⟨c₀, c₁, c₂, following, length, first, Cursor.readIdentifier_sound second,
      Cursor.readIdentifier_sound third, fourth, declared, taken⟩
  · rintro ⟨c₀, c₁, c₂, following, length, first, second, third, fourth, declared, taken⟩
    rw [parse_of_parts first second third fourth, declared]
    simp [taken, bind, Except.bind, pure, Except.pure]

/-- Where the head has been read, the input is a text of the grammar, with these parts. -/
theorem exists_text_of_parts {input version command : Bytes} {c₀ c₁ c₂ : Cursor}
    {headers : Headers} {following : Option Bytes}
    (first : (⟨input, 0, false⟩ : Cursor).skipLineBreaks = .ok (.keyword, c₀))
    (second : c₀.read = .ok (.identifier version, c₁))
    (third : c₁.read = .ok (.identifier command, c₂))
    (fourth : readHead c₂ = .ok (headers, following)) :
    ∃ text : FrameText, text.octets = input ∧ text.version = version ∧ text.command = command ∧
      headers = insertLines .empty text.lines ∧ text.following = following := by
  obtain ⟨blankLines, d, blanks, mode, reads⟩ := Cursor.skipLineBreaks_sound rfl first
  cases reads with
  | @keyword indent rest opens boundary =>
    rw [Cursor.inRun_of_not_inValue mode] at boundary
    obtain ⟨i₁, versionText, versionValid, boundary₁, mode₁⟩ := Cursor.name_sound second mode
    obtain ⟨i₂, commandText, commandValid, -, -⟩ := Cursor.name_sound third mode₁
    obtain ⟨versionGap, rfl⟩ := exists_gap versionValid versionText boundary
    obtain ⟨commandGap, rfl⟩ := exists_gap commandValid commandText boundary₁
    obtain ⟨trailing, block, tailText, inserted, rfl⟩ := readHead_sound fourth
    let text : FrameText :=
      { blankLines, indent, versionGap, version, commandGap, command, trailing, headers := block
        version_isName := versionValid, command_isName := commandValid }
    refine ⟨text, ?_, rfl, rfl, inserted, rfl⟩
    rw [octets_eq, ← tailText, ← commandText, ← versionText, ← opens, ← blanks]

theorem parse_sound {input : Bytes} {f : Frame} (read : parse input = .ok f) :
    ∃ text : FrameText, text.octets = input ∧ text.Denotes f := by
  obtain ⟨c₀, c₁, c₂, following, length, first, second, third, fourth, declared, taken⟩ :=
    parse_eq_ok_iff_parts.1 read
  obtain ⟨text, octets, version, command, inserted, rfl⟩ :=
    exists_text_of_parts first second third fourth
  have found : ∀ key, f.header? key = lastValue key text.lines := fun key => by
    rw [Frame.header?, inserted]
    exact get?_insertLines_empty text.lines key
  refine ⟨text, octets, version.symm, command.symm, found, ?_⟩
  refine (body_iff fun value declared => ?_).1 ⟨length, declared, taken⟩
  exact isValue_of_lastValue ((found Key.contentLength).symm.trans declared)

/-- The reads follow a text from left to right; each starts where the one before has stopped. -/
theorem parts_of_text (text : FrameText) : ∃ c₀ c₁ c₂,
    (⟨text.octets, 0, false⟩ : Cursor).skipLineBreaks = .ok (.keyword, c₀) ∧
    c₀.read = .ok (.identifier text.version, c₁) ∧ c₁.read = .ok (.identifier text.command, c₂) ∧
    readHead c₂ = .ok (insertLines .empty text.lines, text.following) := by
  have gap : ∀ (count : Nat) (rest : Bytes),
      Boundary isIdentifierByte (spaces (count + 1) ++ rest) :=
    fun count rest => boundary_cons.2 (by decide)
  let afterCommand := spaces text.trailing ++ tailOctets text.headers
  let afterVersion := spaces (text.commandGap + 1) ++ (text.command ++ afterCommand)
  let afterKeyword := spaces (text.versionGap + 1) ++ (text.version ++ afterVersion)
  obtain ⟨o, blanks⟩ := Cursor.skipLineBreaks_of_text (c := ⟨text.octets, 0, false⟩) rfl
    (octets_eq text)
  have opening := Cursor.read_of_reads (.keyword
    (c := ⟨spaces text.indent ++ (keyword ++ afterKeyword), o, false⟩) rfl (gap _ _))
  obtain ⟨o₁, second⟩ := Cursor.read_of_name
    (c := ⟨afterKeyword, o + text.indent + keyword.length, false⟩) rfl rfl text.version_isName
    (gap _ _)
  obtain ⟨o₂, third⟩ := Cursor.read_of_name (c := ⟨afterVersion, o₁, false⟩) rfl rfl
    text.command_isName (Cursor.boundary_spaces (boundary_tailOctets text.headers))
  have fourth := readHead_of_text (c := ⟨afterCommand, o₂, false⟩) rfl
  refine ⟨_, _, _, ?_, second, third, fourth⟩
  rw [blanks, Cursor.skipLineBreaks, opening]

theorem parse_of_text {text : FrameText} {f : Frame} (denotes : text.Denotes f) :
    parse text.octets = .ok f := by
  obtain ⟨version, command, found, body⟩ := denotes
  have headers : f.headers = insertLines .empty text.lines :=
    Headers.ext_get? fun key => (found key).trans (get?_insertLines_empty text.lines key).symm
  have valid : ∀ value, f.headers.get? Key.contentLength = some value → IsValue value :=
    fun value declared => isValue_of_lastValue ((found Key.contentLength).symm.trans declared)
  obtain ⟨length, declared, taken⟩ := (body_iff valid).2 body
  obtain ⟨_, _, _, first, second, third, fourth⟩ := parts_of_text text
  exact parse_eq_ok_iff_parts.2 ⟨_, _, _, _, length, first, version ▸ second, command ▸ third,
    headers ▸ fourth, declared, taken⟩

/-- Reading accepts exactly the texts of the grammar, and gives the frame that the text denotes. -/
theorem parse_eq_ok_iff (input : Bytes) (f : Frame) :
    parse input = .ok f ↔ ∃ text : FrameText, text.octets = input ∧ text.Denotes f := by
  constructor
  · exact parse_sound
  · rintro ⟨text, rfl, denotes⟩
    exact parse_of_text denotes

end Frame

end SpeechClient.Wire
