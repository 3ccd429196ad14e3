import SpeechClient.Proofs.Wire.Delimiting
import SpeechClient.Proofs.Wire.Tokens

/-!
# Where reading fails

A frame is rejected at its first fault.  While the head is read, that is an octet that starts no
token, or the first token that no text of the grammar has there; only with a head that keeps to the
grammar is the declared length looked at, and only with a length that is one, the body.

- `Cursor.Reaches`: what has been read of the input leads to a place in the grammar.
- `HeadFault`, `LengthFault`: the faults, and where in the input they are.
- `cutBody`: the body as it is cut out of the whole input by its place.
- `Frame.parse_located`: each rejection is for such a fault, and a body is never cut out of range.
-/

namespace SpeechClient.Wire

namespace Cursor

/-! ## Reads in a row -/

/-- The reads from one cursor to another give these tokens. -/
inductive ReadsAll (c : Cursor) : List Token → Cursor → Prop where
  | nil : ReadsAll c [] c
  | snoc {tokens : List Token} {t : Token} {c₁ c₂ : Cursor} (before : ReadsAll c tokens c₁)
      (reads : c₁.Reads t c₂) : ReadsAll c (tokens ++ [t]) c₂

/-- The tokens from the front of the input up to the cursor lead to a place in the grammar. -/
inductive Reaches (input : Bytes) : Place → List Token → Cursor → Prop where
  | start : Reaches input .opening [] { rest := input }
  | step {p q : Place} {tokens : List Token} {t : Token} {c c' : Cursor}
      (before : Reaches input p tokens c) (reads : c.Reads t c') (next : p.next t = some q) :
      Reaches input q (tokens ++ [t]) c'

namespace Reaches

variable {input : Bytes} {p q : Place} {tokens : List Token} {t : Token} {c c' : Cursor}

theorem readsAll (reaches : Reaches input p tokens c) : ReadsAll { rest := input } tokens c := by
  induction reaches with
  | start => exact .nil
  | step before reads next ih => exact .snoc ih reads

theorem within (reaches : Reaches input p tokens c) : c.Within input := by
  induction reaches with
  | start => exact within_start input
  | step before reads next ih => exact (ih.reads reads).1

/-- The scanner's mode is that of the place. -/
theorem inValue_next (mode : c.inValue = p.inValue) (reads : c.Reads t c')
    (next : p.next t = some q) : c'.inValue = q.inValue := by
  cases reads with
  | endOfInput text => cases p <;> cases next <;> rfl
  | separator text before => cases p <;> cases next; rfl
  | lineBreak text => cases p <;> cases next <;> rfl
  | keyword text boundary => cases p <;> cases next <;> exact mode
  | identifier text nonempty inside start other boundary => cases p <;> cases next <;> exact mode

theorem inValue (reaches : Reaches input p tokens c) : c.inValue = p.inValue := by
  induction reaches with
  | start => rfl
  | step before reads next ih => exact inValue_next ih reads next

theorem fits (reaches : Reaches input p tokens c) (reads : c.Reads t c') : p.Fits t := by
  have mode := reaches.inValue
  cases reads with
  | identifier text nonempty inside start other boundary =>
    unfold Place.Fits
    cases inValue : p.inValue with
    | true =>
      rw [inRun_of_inValue (mode.trans inValue)] at inside
      exact ⟨⟨inside, start⟩, nonempty, other⟩
    | false =>
      rw [inRun_of_not_inValue (mode.trans inValue)] at inside
      exact ⟨nonempty, inside, other⟩
  | _ => trivial

/-- A text begins with the tokens read, exactly if it goes on as the place allows. -/
theorem accepts_iff (reaches : Reaches input p tokens c) (later : List Token) :
    Place.opening.Accepts (tokens ++ later) ↔ p.Accepts later := by
  induction reaches generalizing later with
  | start => rfl
  | step before reads next ih =>
    rw [List.append_assoc, List.singleton_append, ih]
    constructor
    · intro accepts
      obtain ⟨q', next', accepts'⟩ := Place.exists_next_of_accepts accepts
      obtain rfl := Option.some.inj (next'.symm.trans next)
      exact accepts'
    · exact Place.accepts_of_next next (before.fits reads)

theorem viable (reaches : Reaches input p tokens c) : Viable tokens := by
  obtain ⟨later, accepts⟩ : ∃ later, p.Accepts later := by
    by_cases finished : p = .finished
    · exact ⟨[], finished ▸ rfl⟩
    · obtain ⟨t, later, accepts⟩ := Place.exists_accepts finished
      exact ⟨t :: later, accepts⟩
  obtain ⟨text, same⟩ := (reaches.accepts_iff later).mpr accepts
  exact ⟨text, later, same⟩

/-- Before the head is over, some token may come. -/
theorem exists_viable (reaches : Reaches input p tokens c) (more : p ≠ .finished) :
    ∃ t, Viable (tokens ++ [t]) := by
  obtain ⟨t, later, accepts⟩ := Place.exists_accepts more
  obtain ⟨text, same⟩ := (reaches.accepts_iff (t :: later)).mpr accepts
  exact ⟨t, text, later, by rw [← same, List.append_assoc, List.singleton_append]⟩

/-- What leads nowhere, no text has here. -/
theorem not_viable (reaches : Reaches input p tokens c) (out : p.next t = none) :
    ¬Viable (tokens ++ [t]) := by
  rintro ⟨text, later, same⟩
  rw [List.append_assoc, List.singleton_append] at same
  have accepts := (reaches.accepts_iff (t :: later)).mp ⟨text, same⟩
  obtain ⟨q, next, -⟩ := Place.exists_next_of_accepts accepts
  rw [out] at next
  cases next

end Reaches

end Cursor

open Cursor

/-! ## Faults -/

/-- What can be wrong with the head of a frame. -/
inductive HeadFault (input : Bytes) : FrameError → Prop where
  /-- An octet starts no token.  The tokens before it are not yet a whole head. -/
  | octet {tokens : List Token} {c c' : Cursor} {b : UInt8}
      (before : ReadsAll { rest := input } tokens c) (goesOn : ∃ t, Viable (tokens ++ [t]))
      (sticks : c.Sticks b c') (there : input[c'.offset]? = some b) :
      HeadFault input (.invalidCharacter b c'.offset)
  /-- A token is the first that no text of the grammar has there; its end is the place. -/
  | token {tokens : List Token} {t : Token} {c : Cursor} {expected : Expectation}
      (upTo : ReadsAll { rest := input } (tokens ++ [t]) c) (viable : Viable tokens)
      (breaks : ¬Viable (tokens ++ [t])) (inside : c.offset ≤ input.length)
      (reported : expected ≠ .headerLineBreak) :
      HeadFault input (.unexpectedToken expected c.offset)
  /-- Behind blank lines stands something other than the keyword. -/
  | opening {blankLines : Nat} {t : Token} {c : Cursor}
      (upTo : ReadsAll { rest := input } (List.replicate blankLines .lineBreak ++ [t]) c)
      (noBreak : t ≠ .lineBreak) (noKeyword : t ≠ .keyword) : HeadFault input .missingStatusLine

/-- What can be wrong with the length that a text of the grammar declares. -/
inductive LengthFault (input : Bytes) : FrameError → Prop where
  | unreadable {text : FrameText} {value : Bytes} (octets : text.octets = input)
      (declared : lastValue Key.contentLength text.lines = some value)
      (noLength : ∀ n, DeclaresLength value n → UInt64.size ≤ n) :
      LengthFault input (.invalidContentLength value)
  /-- Fewer octets follow the blank line; without one, none do. -/
  | short {text : FrameText} {value : Bytes} {length : Nat} (octets : text.octets = input)
      (declared : lastValue Key.contentLength text.lines = some value)
      (declares : DeclaresLength value length) (bound : length < UInt64.size)
      (less : (text.following.getD []).length < length) :
      LengthFault input (.truncatedBody length (text.following.getD []).length)

/-! ## Faults of the head -/

namespace Cursor

variable {input : Bytes} {p : Place} {tokens : List Token} {t : Token} {c c' : Cursor}
  {e : FrameError}

theorem exists_sticks_of_read (read : c.read = .error e) :
    ∃ b c', e = .invalidCharacter b c'.offset ∧ c.Sticks b c' := by
  unfold Cursor.read at read
  split at read
  · cases read
  next e' c' result =>
    cases read
    obtain ⟨b, same, sticks⟩ := next_eq_error_iff.mp result
    exact ⟨b, c', same, sticks⟩

namespace Reaches

theorem fault_of_octet (reaches : Reaches input p tokens c) (more : p ≠ .finished)
    (read : c.read = .error e) : HeadFault input e := by
  obtain ⟨b, c', rfl, sticks⟩ := exists_sticks_of_read read
  have there : input[c'.offset]? = some b := by
    have within := (reaches.within.sticks sticks).1
    cases sticks with
    | intro text noSpace noColon noBreak noRun => exact within.getElem?_offset 0
  exact .octet reaches.readsAll (reaches.exists_viable more) sticks there

theorem fault_of_token (reaches : Reaches input p tokens c) (read : c.read = .ok (t, c'))
    (out : p.next t = none) {expected : Expectation} (reported : expected ≠ .headerLineBreak) :
    HeadFault input (.unexpectedToken expected c'.offset) := by
  have reads := reads_sound read
  exact .token (.snoc reaches.readsAll reads) reaches.viable (reaches.not_viable out)
    (reaches.within.reads reads).1.le reported

/-- Blank lines before the status line lead to where they began. -/
theorem skipLineBreaks {blankLines : Nat}
    (reaches : Reaches input .opening (List.replicate blankLines .lineBreak) c) :
    (∀ e, c.skipLineBreaks = .error e → HeadFault input e) ∧
    ∀ t c', c.skipLineBreaks = .ok (t, c') → t ≠ .lineBreak ∧ ∃ blankLines d,
      Reaches input .opening (List.replicate blankLines .lineBreak) d ∧ d.Reads t c' := by
  fun_induction Cursor.skipLineBreaks c generalizing blankLines with
  | case1 c e read =>
    refine ⟨?_, by simp⟩
    rintro _ ⟨rfl⟩
    exact reaches.fault_of_octet (by decide) read
  | case2 c c₁ read ih =>
    have next : Reaches input .opening (List.replicate (blankLines + 1) .lineBreak) c₁ := by
      rw [List.replicate_succ']
      exact .step reaches (reads_sound read) rfl
    exact ih next
  | case3 c t c₁ other read =>
    refine ⟨by simp, ?_⟩
    rintro _ _ ⟨rfl, rfl⟩
    exact ⟨other, blankLines, c, reaches, reads_sound read⟩

theorem readIdentifier (reaches : Reaches input p tokens c) (more : p ≠ .finished)
    (only : ∀ t, (∀ run, t ≠ .identifier run) → p.next t = none) {expected : Expectation}
    (read : c.readIdentifier expected = .error e) (reported : expected ≠ .headerLineBreak) :
    HeadFault input e := by
  unfold Cursor.readIdentifier at read
  split at read
  next result =>
    cases read
    exact reaches.fault_of_octet more result
  · cases read
  next t c₁ other result =>
    cases read
    exact reaches.fault_of_token result (only t other) reported

/-- A line goes on with the end of the line, whether its value is empty or not. -/
theorem exists_next_of_lineEnd {rest rest' : Bytes} (lineEnd : LineEnd t rest rest') :
    ∃ q, Place.value.next t = some q ∧ Place.lineEnd.next t = some q := by
  cases lineEnd with
  | lineBreak rest => exact ⟨.line, rfl, rfl⟩
  | endOfInput => exact ⟨.finished, rfl, rfl⟩

theorem exists_next_of_readValue (reaches : Reaches input .value tokens c) {value : Bytes}
    (read : c.readValue = .ok (value, t, c')) :
    ∃ q, Place.value.next t = some q ∧ Place.lineEnd.next t = some q := by
  obtain ⟨indent, rest, -, -, lineEnd, -⟩ := readValue_sound reaches.inValue read
  exact exists_next_of_lineEnd lineEnd

/-- Reading a value and what ends its line fails at a fault, or comes to the place behind them. -/
structure ReadsLine (input : Bytes) (before : List Token)
    (result : Except FrameError (Bytes × Token × Cursor)) : Prop where
  fault : ∀ e, result = .error e → HeadFault input e
  reaches : ∀ value t c', result = .ok (value, t, c') →
    ∃ q, Place.lineEnd.next t = some q ∧ Reaches input q (before ++ valueTokens value ++ [t]) c'

theorem readLineEnd {run : Bytes} (reaches : Reaches input .lineEnd (tokens ++ valueTokens run) c)
    (ends : ∀ value t c', (c.read.map fun p => (run, p.1, p.2)) = .ok (value, t, c') →
      ∃ q, Place.value.next t = some q ∧ Place.lineEnd.next t = some q) :
    ReadsLine input tokens (c.read.map fun p => (run, p.1, p.2)) where
  fault e failed := by
    cases result : c.read with
    | error e' =>
      rw [result] at failed
      cases failed
      exact reaches.fault_of_octet (by decide) result
    | ok p => simp [result, Except.map] at failed
  reaches value t c' read := by
    obtain ⟨q, -, next⟩ := ends value t c' read
    obtain ⟨⟨t', c''⟩, result, same⟩ := map_eq_ok_iff.mp read
    cases same
    exact ⟨q, next, .step reaches (reads_sound result) next⟩

theorem readValue (reaches : Reaches input .value tokens c) :
    ReadsLine input tokens c.readValue := by
  -- What ends the line is known from the octets, so the place behind it is too.
  have ends (value : Bytes) (t : Token) (c' : Cursor)
      (read : c.readValue = .ok (value, t, c')) := reaches.exists_next_of_readValue read
  revert ends
  unfold Cursor.readValue
  split
  next e result =>
    refine fun _ => ⟨?_, by simp⟩
    rintro _ ⟨rfl⟩
    exact reaches.fault_of_octet (by decide) result
  next run d first =>
    have single : valueTokens run = [.identifier run] := by
      cases reads_sound first with
      | identifier text nonempty inside start other boundary => simp [valueTokens, nonempty, other]
    have reached : Reaches input .lineEnd (tokens ++ valueTokens run) d :=
      single ▸ .step reaches (reads_sound first) rfl
    exact reached.readLineEnd
  next d first =>
    have reached : Reaches input .lineEnd (tokens ++ valueTokens keyword) d :=
      .step reaches (reads_sound first) rfl
    exact reached.readLineEnd
  next t c₁ noRun noKeyword result =>
    refine fun ends => ⟨by simp, ?_⟩
    rintro _ _ _ ⟨rfl, rfl, rfl⟩
    obtain ⟨q, now, next⟩ := ends [] t c₁ rfl
    exact ⟨q, next, by simpa [valueTokens] using .step reaches (reads_sound result) now⟩

theorem readAfterKey (reaches : Reaches input .colon tokens c) :
    ReadsLine input (tokens ++ [.separator]) c.readAfterKey := by
  unfold Cursor.readAfterKey
  split
  next e result =>
    refine ⟨?_, by simp⟩
    rintro _ ⟨rfl⟩
    exact reaches.fault_of_octet (by decide) result
  next c₁ result =>
    have reached : Reaches input .value (tokens ++ [.separator]) c₁ :=
      .step reaches (reads_sound result) rfl
    exact reached.readValue
  next t c₁ other result =>
    refine ⟨?_, by simp⟩
    rintro _ ⟨rfl⟩
    have out : Place.colon.next t = none := by
      cases t with
      | separator => exact absurd rfl other
      | _ => rfl
    exact reaches.fault_of_token result out (by decide)

theorem readLine {key : Bytes} (reaches : Reaches input .line tokens c)
    (first : c.read = .ok (.identifier key, c')) :
    ReadsLine input (tokens ++ [.identifier key] ++ [.separator]) c'.readAfterKey := by
  have colon : Reaches input .colon (tokens ++ [.identifier key]) c' :=
    .step reaches (reads_sound first) rfl
  exact colon.readAfterKey

theorem readHeaders (reaches : Reaches input .line tokens c) {headers : Headers}
    (read : c.readHeaders headers = .error e) : HeadFault input e := by
  -- Each line that a break ends leads back to where a line may begin.
  fun_induction Cursor.readHeaders c headers generalizing tokens with
  | case1 c headers e' result =>
    cases read
    exact reaches.fault_of_octet (by decide) result
  | case2 => cases read
  | case3 => cases read
  | case4 c headers c' result =>
    cases read
    exact reaches.fault_of_token result rfl (by decide)
  | case5 c headers c' result =>
    cases read
    exact reaches.fault_of_token result rfl (by decide)
  | case6 c headers key c₁ first e' second =>
    cases read
    exact (reaches.readLine first).fault _ second
  | case7 c headers key c₁ first value c₂ second ih =>
    obtain ⟨q, next, reached⟩ := (reaches.readLine first).reaches _ _ _ second
    cases next
    exact ih reached read
  | case8 => cases read
  | case9 c headers key c₁ first value t c₂ noBreak noEnd second =>
    -- Behind a value nothing but the end of the line can be read.
    obtain ⟨q, next, -⟩ := (reaches.readLine first).reaches _ _ _ second
    cases t with
    | lineBreak => exact absurd rfl noBreak
    | endOfInput => exact absurd rfl noEnd
    | _ => cases next

theorem readHead (reaches : Reaches input .statusEnd tokens c)
    (read : Frame.readHead c = .error e) : HeadFault input e := by
  unfold Frame.readHead at read
  split at read
  next result =>
    cases read
    exact reaches.fault_of_octet (by decide) result
  · cases read
  next c₁ result =>
    have reached : Reaches input .line (tokens ++ [.lineBreak]) c₁ :=
      .step reaches (reads_sound result) rfl
    exact reached.readHeaders read
  next t c₁ noEnd noBreak result =>
    cases read
    have out : Place.statusEnd.next t = none := by
      cases t with
      | lineBreak => exact absurd rfl noBreak
      | endOfInput => exact absurd rfl noEnd
      | _ => rfl
    exact reaches.fault_of_token result out (by decide)

/-! ## The tokens of a text are those that are read -/

theorem blankLines {blankLines : List Nat} {rest : Bytes}
    (reaches : Reaches input .opening tokens c) (octets : c.rest = blankOctets blankLines ++ rest) :
    ∃ c', Reaches input .opening (tokens ++ blankLines.map fun _ => .lineBreak) c' ∧
      c'.rest = rest := by
  induction blankLines generalizing tokens c with
  | nil => exact ⟨c, by simpa using reaches, octets⟩
  | cons indent blankLines ih =>
    have breakText : c.rest =
        spaces indent ++ (Bytes.lineBreak ++ (blankOctets blankLines ++ rest)) := by
      simpa [blankOctets] using octets
    obtain ⟨c', reached, left⟩ := ih (.step reaches (.lineBreak breakText) rfl) rfl
    exact ⟨c', by simpa using reached, left⟩

theorem line {line : LineText} {rest rest' : Bytes} (reaches : Reaches input .line tokens c)
    (octets : c.rest = line.octets ++ rest) (lineEnd : LineEnd t rest rest') :
    ∃ q c', Place.lineEnd.next t = some q ∧
      Reaches input q (tokens ++ line.tokens ++ [t]) c' ∧ c'.rest = rest' := by
  obtain ⟨c₁, offset, first, second⟩ := readLine_of_text reaches.inValue octets lineEnd
  obtain ⟨q, next, reached⟩ := (reaches.readLine first).reaches _ _ _ second
  exact ⟨q, _, next, by simpa [LineText.tokens] using reached, rfl⟩

theorem headers {text : HeadersText} (reaches : Reaches input .line tokens c)
    (octets : c.rest = text.octets) : ∃ c', Reaches input .finished (tokens ++ text.tokens) c' ∧
      ∀ rest, text.following = some rest → c'.rest = rest := by
  obtain ⟨lines, ending⟩ := text
  induction lines generalizing tokens c with
  | nil =>
    cases ending with
    | input indent =>
      exact ⟨_, .step reaches (.endOfInput octets) rfl, by simp [HeadersText.following]⟩
    | openLine line =>
      have lineText : c.rest = line.octets ++ [] := by
        simpa [HeadersText.octets, HeadersEnd.octets] using octets
      obtain ⟨q, c', next, reached, -⟩ := reaches.line lineText .endOfInput
      cases next
      exact ⟨c', by simpa [HeadersText.tokens, HeadersEnd.tokens] using reached,
        by simp [HeadersText.following]⟩
    | blankLine indent rest =>
      have breakText : c.rest = spaces indent ++ (Bytes.lineBreak ++ rest) := by
        simpa [HeadersText.octets, HeadersEnd.octets] using octets
      exact ⟨_, .step reaches (.lineBreak breakText) rfl, fun _ same => Option.some.inj same⟩
  | cons line lines ih =>
    have lineText : c.rest =
        line.octets ++ (Bytes.lineBreak ++ HeadersText.octets ⟨lines, ending⟩) := by
      simpa [HeadersText.octets] using octets
    obtain ⟨q, c₁, next, reached, left⟩ := reaches.line lineText (.lineBreak _)
    cases next
    obtain ⟨c', finished, follows⟩ := ih reached left
    exact ⟨c', by simpa [HeadersText.tokens] using finished, follows⟩

end Reaches

/-- A text of the grammar is read as its tokens, up to its blank line if it has one. -/
theorem reaches_of_text {input : Bytes} {text : FrameText} (octets : text.octets = input) :
    ∃ c, Reaches input .finished text.tokens c ∧
      ∀ rest, text.following = some rest → c.rest = rest := by
  have gap (count : Nat) (rest : Bytes) : Boundary isIdentifierByte (spaces (count + 1) ++ rest) :=
    boundary_cons.2 (by decide)
  let afterCommand := spaces text.trailing ++ tailOctets text.headers
  let afterVersion := spaces (text.commandGap + 1) ++ (text.command ++ afterCommand)
  let afterKeyword := spaces (text.versionGap + 1) ++ (text.version ++ afterVersion)
  have parts := octets.symm.trans (Frame.octets_eq text)
  obtain ⟨c₀, opening, left⟩ := Reaches.start.blankLines parts
  have boundary : Boundary c₀.inRun afterKeyword := by
    rw [inRun_of_not_inValue opening.inValue]
    exact gap _ _
  have version := Reaches.step opening (.keyword left boundary) rfl
  obtain ⟨o₁, second⟩ := read_of_name version.inValue rfl text.version_isName (gap _ _)
  have command := Reaches.step version (reads_sound second) rfl
  have behind : Boundary isIdentifierByte afterCommand :=
    boundary_spaces (Frame.boundary_tailOctets text.headers)
  obtain ⟨o₂, third⟩ := read_of_name command.inValue rfl text.command_isName behind
  have statusEnd := Reaches.step command (reads_sound third) rfl
  cases shape : text.headers with
  | none =>
    have ends : afterCommand = spaces text.trailing := by
      simp [afterCommand, shape, tailOctets]
    have finished := Reaches.step statusEnd (.endOfInput ends) rfl
    exact ⟨_, by simpa [FrameText.tokens, tailTokens, shape] using finished,
      by simp [FrameText.following, shape]⟩
  | some headers =>
    have breaks : afterCommand = spaces text.trailing ++ (Bytes.lineBreak ++ headers.octets) := by
      simp [afterCommand, shape, tailOctets]
    have line := Reaches.step statusEnd (.lineBreak breaks) rfl
    obtain ⟨c, finished, follows⟩ := line.headers rfl
    exact ⟨c, by simpa [FrameText.tokens, tailTokens, shape] using finished,
      by simpa [FrameText.following, shape] using follows⟩

end Cursor

namespace Frame

variable {input : Bytes} {e : FrameError}

/-! ## Faults of the length -/

theorem declaredLength_fault {headers : Headers} (unread : declaredLength headers = .error e) :
    ∃ value, headers.get? Key.contentLength = some value ∧ e = .invalidContentLength value := by
  unfold declaredLength at unread
  split at unread
  · cases unread
  next value declared =>
    split at unread
    · cases unread
    · cases unread
      exact ⟨value, declared, rfl⟩

theorem declaredLength_lt {headers : Headers} {length : Nat}
    (declared : declaredLength headers = .ok length) : length < UInt64.size := by
  unfold declaredLength at declared
  split at declared
  · cases declared
    decide
  split at declared
  next n below =>
    cases declared
    have bounded := (Option.filter_eq_some_iff.mp below).2
    exact of_decide_eq_true bounded
  · cases declared

theorem takeBody_fault {length : Nat} {following : Option Bytes}
    (short : takeBody length following = .error e) : (following.getD []).length < length ∧
      e = .truncatedBody length (following.getD []).length := by
  simp only [takeBody] at short
  split at short
  next less =>
    cases short
    exact ⟨less, rfl⟩
  · cases short

theorem lengthFault_of_text {text : FrameText} (octets : text.octets = input)
    (fault : declaredLength (insertLines .empty text.lines) = .error e ∨
      ∃ length, declaredLength (insertLines .empty text.lines) = .ok length ∧
        takeBody length text.following = .error e) : LengthFault input e := by
  have found := get?_insertLines_empty text.lines Key.contentLength
  have valid : ∀ value, (insertLines .empty text.lines).get? Key.contentLength = some value →
      IsValue value := by
    intro value declared
    rw [found] at declared
    exact isValue_of_lastValue declared
  obtain unread | ⟨length, declared, short⟩ := fault
  · obtain ⟨value, stored, rfl⟩ := declaredLength_fault unread
    refine .unreadable octets (found.symm.trans stored) fun n declares => ?_
    by_contra small
    have read := (declaredLength_eq_ok_iff stored (valid value stored)).mpr
      ⟨declares, Nat.lt_of_not_le small⟩
    rw [read] at unread
    cases unread
  · obtain ⟨less, rfl⟩ := takeBody_fault short
    obtain ⟨value, stored, declares⟩ := exists_declares valid declared (Nat.zero_lt_of_lt less)
    have bound := ((declaredLength_eq_ok_iff stored (valid value stored)).mp declared).2
    exact .short octets (found.symm.trans stored) declares bound less

/-- Reading fails in the head, or the head is that of a text and its length is at fault. -/
theorem fault_of_parse (rejected : parse input = .error e) :
    HeadFault input e ∨ LengthFault input e := by
  have front : Reaches input .opening (List.replicate 0 .lineBreak) ⟨input, 0, false⟩ := .start
  obtain ⟨blankFaults, blanksRead⟩ := front.skipLineBreaks
  obtain first | ⟨⟨opening, c₀⟩, first, rejected⟩ := bind_eq_error_iff.1 rejected
  · exact .inl (blankFaults e first)
  obtain ⟨noBreak, count, d, reached, reads⟩ := blanksRead opening c₀ first
  obtain ⟨noKeyword, rfl⟩ | ⟨isKeyword, rejected⟩ := check_eq_error_iff.1 rejected
  · exact .inl (.opening (.snoc reached.readsAll reads) noBreak noKeyword)
  obtain rfl := not_ne_iff.1 isKeyword
  have version := Reaches.step reached reads rfl
  have onlyNames : ∀ p, p = .version ∨ p = .command → ∀ t, (∀ run, t ≠ .identifier run) →
      Place.next p t = none := by
    rintro _ (rfl | rfl) t other <;> cases t <;> first | rfl | exact absurd rfl (other _)
  obtain second | ⟨⟨v, c₁⟩, second, rejected⟩ := bind_eq_error_iff.1 rejected
  · exact .inl (version.readIdentifier nofun (onlyNames _ (.inl rfl)) second nofun)
  have second := readIdentifier_sound second
  have command := Reaches.step version (reads_sound second) rfl
  obtain third | ⟨⟨w, c₂⟩, third, rejected⟩ := bind_eq_error_iff.1 rejected
  · exact .inl (command.readIdentifier nofun (onlyNames _ (.inr rfl)) third nofun)
  have third := readIdentifier_sound third
  have statusEnd := Reaches.step command (reads_sound third) rfl
  obtain fourth | ⟨⟨headers, following⟩, fourth, rejected⟩ := bind_eq_error_iff.1 rejected
  · exact .inl (statusEnd.readHead fourth)
  obtain ⟨text, octets, -, -, rfl, rfl⟩ := exists_text_of_parts first second third fourth
  refine .inr (lengthFault_of_text octets ?_)
  obtain unread | ⟨length, declared, rejected⟩ := bind_eq_error_iff.1 rejected
  · exact .inl unread
  obtain short | ⟨body, -, never⟩ := bind_eq_error_iff.1 rejected
  · exact .inr ⟨length, declared, short⟩
  · cases never

/-- Behind a whole head nothing is reported but a fault of the length. -/
theorem not_headFault_of_isHead {head : Bytes} (ended : IsHead head) (starts : head <+: input)
    (rejected : parse input = .error e) : ¬HeadFault input e := by
  obtain ⟨rest, rfl⟩ := starts
  obtain ⟨version, command, headers, valid, parses⟩ := ended.exists_parse_eq
  rw [parses] at rejected
  intro fault
  obtain unread | ⟨length, -, rejected⟩ := bind_eq_error_iff.1 rejected
  · obtain ⟨value, -, rfl⟩ := declaredLength_fault unread
    cases fault
  obtain short | ⟨body, -, never⟩ := bind_eq_error_iff.1 rejected
  · obtain ⟨-, rfl⟩ := takeBody_fault short
    cases fault
  · cases never

end Frame

/-! ## The body by its place -/

/-- The octets between two places, if these are places in the input and in this order. -/
def slice? (input : Bytes) (start stop : Nat) : Option Bytes :=
  if start ≤ stop ∧ stop ≤ input.length then some (input.extract start stop) else none

/-- The body as it is cut out of the whole input: from the place behind the blank line on or, if
there is none, from another place.  Nothing comes of a cut out of range. -/
def cutBody (otherwise : Nat) (input : Bytes) (start : Option Nat) (length : Nat) :
    Except FrameError (Option Bytes) :=
  if length = 0 then .ok (some [])
  else
    let available := (start.map fun place => input.length - place).getD 0
    if available < length then .error (.truncatedBody length available)
    else
      let place := start.getD otherwise
      .ok (slice? input place (place + length))

namespace Frame

variable {input : Bytes}

/-- The cut is in range, and the place that stands in for the blank line is not used. -/
theorem cutBody_eq {c : Cursor} (within : c.Within input) {following : Option Bytes}
    (follows : ∀ rest, following = some rest → c.rest = rest) (otherwise length : Nat) :
    cutBody otherwise input (following.map fun _ => c.offset) length =
      (takeBody length following).map some := by
  unfold cutBody
  split
  next zero =>
    subst zero
    simp [takeBody, Except.map]
  next positive =>
    cases following with
    | none => simp [takeBody, Except.map, Nat.pos_of_ne_zero positive]
    | some rest =>
      obtain rfl := follows rest rfl
      have available : input.length - c.offset = c.rest.length := within.length_rest.symm
      simp only [Option.map_some, Option.getD_some, available, takeBody]
      split
      · rfl
      next enough =>
        have le := within.le
        have inRange : c.offset ≤ c.offset + length ∧ c.offset + length ≤ input.length := by
          omega
        have cut : input.extract c.offset (c.offset + length) = c.rest.take length := by
          rw [List.extract_eq_take_drop, Nat.add_sub_cancel_left, within.rest]
        rw [slice?, if_pos inRange, cut]
        rfl

/-- Frames are rejected for a fault of the head where no whole head stands, and else for a fault of
the declared length.  Where a text of the grammar declares a length, the body is cut out of the
input between two places in it, whatever place would stand in for that of the blank line. -/
theorem parse_located (input : Bytes) :
    (∀ e, parse input = .error e →
      HeadFault input e ∧ (∀ head, IsHead head → ¬head <+: input) ∨ LengthFault input e) ∧
    ∀ text : FrameText, text.octets = input →
      ∃ c, ReadsAll { rest := input } text.tokens c ∧ c.offset ≤ input.length ∧
        ∀ length, declaredLength (insertLines .empty text.lines) = .ok length →
          length < UInt64.size ∧ ∀ otherwise,
            cutBody otherwise input (text.following.map fun _ => c.offset) length =
              (parse input).map fun f => some f.body := by
  refine ⟨fun e rejected => ?_, ?_⟩
  · obtain headFault | lengthFault := fault_of_parse rejected
    · refine .inl ⟨headFault, fun head ended starts => ?_⟩
      exact not_headFault_of_isHead ended starts rejected headFault
    · exact .inr lengthFault
  · rintro text octets
    obtain ⟨c, reaches, follows⟩ := reaches_of_text octets
    refine ⟨c, reaches.readsAll, reaches.within.le, fun length declared => ?_⟩
    refine ⟨declaredLength_lt declared, fun otherwise => ?_⟩
    obtain ⟨c₀, c₁, c₂, first, second, third, fourth⟩ := parts_of_text text
    rw [octets] at first
    rw [cutBody_eq reaches.within follows, parse_of_parts first second third fourth, declared]
    cases taken : takeBody length text.following with
    | error e => simp [taken, bind, Except.bind, Except.map]
    | ok body => simp [taken, bind, Except.bind, Except.map, pure, Except.pure]

/-- An octet that starts no token is a fault of the head, and nothing to a body. -/
example :
    parse (utf8 "ASR 2.3 RESULT\r\n*") = .error (.invalidCharacter 42 16) ∧
      parse (utf8 "ASR 2.3 RESULT\r\nContent-Length: 5\r\n\r\n*") =
        .error (.truncatedBody 5 1) := by
  decide +kernel

end Frame

end SpeechClient.Wire
