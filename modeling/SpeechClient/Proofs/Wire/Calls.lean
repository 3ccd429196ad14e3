import Mathlib.Data.List.Basic
import Mathlib.Logic.Function.Iterate
import SpeechClient.Proofs.Wire.Scanning

/-!
# The calls of the scanner

Called again and again, the scanner goes over its input from front to back.  A call takes spaces and
the text of one token, and a run goes as far as its class of octets does; at an octet that starts no
token the scanner stays for good.

- `Cursor.next_eq_ok_iff`, `Cursor.next_eq_error_iff`: what a single call does.
- `Cursor.Within`: the cursor stands at its offset in the input, which each call keeps.
- `Cursor.calls`: all calls up to the end of the input or the first fault.
- `Cursor.calls_sound`: how many they are, and what each of them takes and gives.
-/

namespace SpeechClient.Wire

def Token.text : Token → Bytes
  | keyword => Wire.keyword
  | identifier run => run
  | separator => [Bytes.colon]
  | lineBreak => Bytes.lineBreak
  | endOfInput => []

/-- The token is a run of octets of one class. -/
def Token.IsRun : Token → Prop
  | keyword | identifier _ => True
  | separator | lineBreak | endOfInput => False

/-- A colon has parted key and value, and no line break has come after it. -/
def SeparatorSince (tokens : List Token) : Prop :=
  ∃ before after, tokens = before ++ .separator :: after ∧ .lineBreak ∉ after

theorem not_separatorSince_nil : ¬SeparatorSince [] := by
  rintro ⟨before, after, empty, -⟩
  simp at empty

theorem separatorSince_concat {tokens : List Token} {t : Token} :
    SeparatorSince (tokens ++ [t]) ↔
      t = .separator ∨ SeparatorSince tokens ∧ t ≠ .lineBreak := by
  constructor
  · rintro ⟨before, after, split, noBreak⟩
    -- The separator is the new token, or there is a last token behind it.
    rcases List.eq_nil_or_concat' after with rfl | ⟨between, last, rfl⟩
    · exact .inl (List.singleton_inj.mp (List.append_inj' split rfl).2)
    · have parts : tokens ++ [t] = (before ++ .separator :: between) ++ [last] := by
        rw [split, List.append_assoc, List.cons_append]
      obtain ⟨rfl, same⟩ := List.append_inj' parts rfl
      obtain rfl : t = last := List.singleton_inj.mp same
      rw [List.mem_append, not_or] at noBreak
      refine .inr ⟨⟨before, between, rfl, noBreak.1⟩, ?_⟩
      rintro rfl
      exact noBreak.2 List.mem_cons_self
  · rintro (rfl | ⟨⟨before, after, rfl, noBreak⟩, other⟩)
    · exact ⟨tokens, [], rfl, by simp⟩
    · exact ⟨before, after ++ [t], by simp, by simp [noBreak, other.symm]⟩

namespace Cursor

variable {c c' : Cursor} {t : Token} {input : Bytes}

/-! ## A single call -/

theorem read_eq_ok_iff_next : c.read = .ok (t, c') ↔ c.next = (.ok t, c') := by
  unfold read
  split
  next result => simp [result]
  next result => simp [result]

/-- A call that gives a token takes what `Reads` says. -/
theorem next_eq_ok_iff : c.next = (.ok t, c') ↔ c.Reads t c' := by
  rw [← read_eq_ok_iff_next, read_eq_ok_iff]

/-- Behind spaces stands an octet that no token starts with; there the cursor is left. -/
inductive Sticks (c : Cursor) (b : UInt8) : Cursor → Prop where
  | intro {indent : Nat} {rest : Bytes} (text : c.rest = spaces indent ++ b :: rest)
      (noSpace : b ≠ Bytes.space) (noColon : b ≠ Bytes.colon)
      (noBreak : b = Bytes.cr → rest.head? ≠ some Bytes.lf) (noRun : c.inRun b = false) :
      Sticks c b ⟨b :: rest, c.offset + indent, c.inValue⟩

theorem token_of_sticks {b : UInt8} {rest : Bytes} (text : c.rest = b :: rest)
    (noColon : b ≠ Bytes.colon) (noBreak : b = Bytes.cr → rest.head? ≠ some Bytes.lf)
    (noRun : c.inRun b = false) : c.token = (.error (.invalidCharacter b c.offset), c) := by
  have noLineBreak : (b == Bytes.cr && rest.head? == some Bytes.lf) = false := by
    simpa using noBreak
  simp [token, text, noColon, noLineBreak, noRun]

theorem sticks_of_next {e : FrameError} (result : c.next = (.error e, c')) :
    ∃ b, e = .invalidCharacter b c'.offset ∧ c.Sticks b c' := by
  obtain ⟨indent, rest, text, start, skipped⟩ := exists_skipSpaces c
  rw [next, skipped] at result
  unfold token at result
  split at result
  · cases result
  next b tail shape =>
    subst shape
    split at result
    · cases result
    next noSeparator =>
      split at result
      · cases result
      next noLineBreak =>
        split at result
        · cases result
        next noRun =>
          cases result
          have noRun : c.inRun b = false := Bool.eq_false_iff.mpr noRun
          refine ⟨b, rfl, .intro text (by simpa using start) ?_ (by simpa using noLineBreak) noRun⟩
          -- Where a colon does not part key and value, it belongs to a run.
          rintro rfl
          have inValue : c.inValue = true := by simpa using noSeparator
          simp [inRun, inValue, isValueByte] at noRun

theorem next_of_sticks {b : UInt8} (sticks : c.Sticks b c') :
    c.next = (.error (.invalidCharacter b c'.offset), c') := by
  cases sticks with
  | intro text noSpace noColon noBreak noRun =>
    rw [next, skipSpaces_of_spaces text (by simpa using noSpace)]
    exact token_of_sticks rfl noColon noBreak noRun

/-- A call fails exactly where an octet starts no token, and reports that octet and its place. -/
theorem next_eq_error_iff {e : FrameError} :
    c.next = (.error e, c') ↔ ∃ b, e = .invalidCharacter b c'.offset ∧ c.Sticks b c' := by
  constructor
  · exact sticks_of_next
  · rintro ⟨b, rfl, sticks⟩
    exact next_of_sticks sticks

/-- From where a call has failed, every later one fails in the same way. -/
theorem Sticks.again {b : UInt8} (sticks : c.Sticks b c') : c'.Sticks b c' := by
  cases sticks with
  | @intro indent rest text noSpace noColon noBreak noRun =>
    let stuck : Cursor := ⟨b :: rest, c.offset + indent, c.inValue⟩
    have here : stuck.rest = spaces 0 ++ b :: rest := rfl
    exact .intro here noSpace noColon noBreak noRun

theorem Reads.exists_text (reads : c.Reads t c') : ∃ indent,
    c.rest = spaces indent ++ t.text ++ c'.rest ∧
      c'.offset = c.offset + (spaces indent ++ t.text).length := by
  cases reads with
  | @endOfInput indent text => exact ⟨indent, by simp [text, Token.text], by simp [Token.text]⟩
  | @separator indent rest text before =>
    exact ⟨indent, by simp [text, Token.text], by simp [Token.text]; omega⟩
  | @lineBreak indent rest text =>
    exact ⟨indent, by simp [text, Token.text], by simp [Token.text, Bytes.lineBreak]; omega⟩
  | @keyword indent rest text boundary =>
    exact ⟨indent, by simp [text, Token.text], by simp [Token.text]; omega⟩
  | @identifier indent run rest text nonempty inside start other boundary =>
    exact ⟨indent, by simp [text, Token.text], by simp [Token.text]; omega⟩

theorem Reads.inValue_iff (reads : c.Reads t c') (more : t ≠ .endOfInput) :
    c'.inValue = true ↔ t = .separator ∨ c.inValue = true ∧ t ≠ .lineBreak := by
  cases reads with
  | endOfInput text => exact absurd rfl more
  | separator text before => simp
  | lineBreak text => simp
  | keyword text boundary => simp
  | identifier text nonempty inside start other boundary => simp

/-! ## Places in the input -/

/-- The cursor stands at its offset in the input. -/
structure Within (input : Bytes) (c : Cursor) : Prop where
  le : c.offset ≤ input.length
  rest : c.rest = input.drop c.offset

theorem within_start (input : Bytes) : Within input ⟨input, 0, false⟩ :=
  ⟨Nat.zero_le _, rfl⟩

namespace Within

variable (within : c.Within input)
include within

theorem length_rest : c.rest.length = input.length - c.offset := by
  rw [within.rest, List.length_drop]

/-- Octets taken from the front of the rest stand between the offsets before and after that. -/
theorem advance {taken : Bytes} (text : c.rest = taken ++ c'.rest)
    (offset : c'.offset = c.offset + taken.length) :
    c'.Within input ∧ input.extract c.offset c'.offset = taken := by
  have length : taken.length + c'.rest.length = input.length - c.offset := by
    rw [← within.length_rest, text, List.length_append]
  have le := within.le
  refine ⟨⟨by omega, ?_⟩, ?_⟩
  · rw [offset, ← List.drop_drop, ← within.rest, text, List.drop_left]
  · rw [List.extract_eq_take_drop, ← within.rest, text, offset, Nat.add_sub_cancel_left,
      List.take_left]

/-- What a call that gives a token takes from the input. -/
theorem reads (reads : c.Reads t c') : c'.Within input ∧
    ∃ indent, input.extract c.offset c'.offset = spaces indent ++ t.text := by
  obtain ⟨indent, text, offset⟩ := reads.exists_text
  obtain ⟨within', taken⟩ := within.advance text offset
  exact ⟨within', indent, taken⟩

theorem sticks {b : UInt8} (sticks : c.Sticks b c') : c'.Within input ∧
    ∃ indent, input.extract c.offset c'.offset = spaces indent := by
  cases sticks with
  | @intro indent rest text noSpace noColon noBreak noRun =>
    let stuck : Cursor := ⟨b :: rest, c.offset + indent, c.inValue⟩
    have left : c.rest = spaces indent ++ stuck.rest := text
    have offset : stuck.offset = c.offset + (spaces indent).length := by rw [length_spaces]
    obtain ⟨within', taken⟩ := within.advance left offset
    exact ⟨within', indent, taken⟩

theorem getElem?_offset (more : Nat) : input[c.offset + more]? = c.rest[more]? := by
  rw [within.rest, List.getElem?_drop]

theorem boundary {p : UInt8 → Bool} (boundary : Boundary p c.rest) {b : UInt8}
    (next : input[c.offset]? = some b) : p b = false := by
  refine boundary b ?_
  rw [List.head?_eq_getElem?, ← within.getElem?_offset, Nat.add_zero, next]

end Within

/-! ## All calls -/

/-- A call of the scanner: what it gives, and where it leaves the cursor. -/
structure Call where
  result : Except FrameError Token
  after : Cursor

/-- Nothing comes after this call that has not come yet. -/
def Call.stops (call : Call) : Bool :=
  match call.result with
  | .ok t => t = .endOfInput
  | .error _ => true

def Call.token? (call : Call) : Option Token :=
  call.result.toOption

def call (c : Cursor) : Call :=
  ⟨c.next.1, c.next.2⟩

theorem call_ok_iff : c.call = ⟨.ok t, c'⟩ ↔ c.Reads t c' := by
  rw [← next_eq_ok_iff, call, Call.mk.injEq, Prod.ext_iff]

/-- A call goes on exactly if it gives a token other than the end of the input. -/
theorem exists_reads_of_goes_on (goesOn : c.call.stops = false) :
    ∃ t c', c.call = ⟨.ok t, c'⟩ ∧ c.Reads t c' ∧ t ≠ .endOfInput := by
  cases result : c.next.1 with
  | error e => simp [call, Call.stops, result] at goesOn
  | ok t =>
    have more : t ≠ .endOfInput := by simpa [call, Call.stops, result] using goesOn
    have same : c.call = ⟨.ok t, c.next.2⟩ := by rw [call, result]
    exact ⟨t, c.next.2, same, call_ok_iff.mp same, more⟩

theorem call_after_lt (goesOn : c.call.stops = false) :
    c.call.after.rest.length < c.rest.length := by
  obtain ⟨t, c', same, reads, more⟩ := exists_reads_of_goes_on goesOn
  rw [same]
  exact read_lt (read_of_reads reads) more

def calls (c : Cursor) : List Call :=
  if _stops : c.call.stops = true then [c.call] else c.call :: c.call.after.calls
termination_by c.rest.length
decreasing_by exact call_after_lt (Bool.eq_false_iff.mpr _stops)

def tokensOf (calls : List Call) : List Token :=
  calls.filterMap Call.token?

def afterCalls (c : Cursor) (calls : List Call) : Cursor :=
  (calls.getLast?.map Call.after).getD c

theorem afterCalls_cons (c : Cursor) (call : Call) (calls : List Call) :
    c.afterCalls (call :: calls) = call.after.afterCalls calls := by
  cases calls with
  | nil => rfl
  | cons second rest =>
    simp only [afterCalls, List.getLast?_cons_cons]
    rw [List.getLast?_cons]
    rfl

/-- What a call does that finds the cursor at `c` after these tokens. -/
structure Call.Sound (input : Bytes) (c : Cursor) (tokens : List Token) (call : Call) : Prop where
  /-- The offset never goes back, and stays in the input. -/
  forward : c.offset ≤ call.after.offset ∧ call.after.offset ≤ input.length
  advances : ∀ t, call.result = .ok t → t ≠ .endOfInput → c.offset < call.after.offset
  /-- What is taken is spaces and the text of the token.  With the end all has been taken. -/
  lossless : ∀ t, call.result = .ok t →
    ∃ indent, input.extract c.offset call.after.offset = spaces indent ++ t.text
  exhausted : call.result = .ok .endOfInput → call.after.offset = input.length
  /-- The class of the octets in a run changes behind the colon of a line. -/
  mode : c.inValue = true ↔ SeparatorSince tokens
  identifier : ∀ run, call.result = .ok (.identifier run) →
    run ≠ [] ∧ run ≠ keyword ∧ ∀ b ∈ run, c.inRun b = true
  /-- The next octet does not belong to the run. -/
  longest : ∀ t, t.IsRun → call.result = .ok t →
    ∀ b, input[call.after.offset]? = some b → c.inRun b = false
  fault : ∀ e, call.result = .error e → ∃ indent b,
    input.extract c.offset call.after.offset = spaces indent ∧
    input[call.after.offset]? = some b ∧ e = .invalidCharacter b call.after.offset ∧
    (b ≠ Bytes.space ∧ b ≠ Bytes.colon ∧ c.inRun b = false ∧
      (b = Bytes.cr → input[call.after.offset + 1]? ≠ some Bytes.lf)) ∧
    ∀ later, ((fun c : Cursor => c.next.2)^[later] call.after).next = (.error e, call.after)

theorem Reads.offset_lt (reads : c.Reads t c') (more : t ≠ .endOfInput) :
    c.offset < c'.offset := by
  obtain ⟨indent, -, offset⟩ := reads.exists_text
  have nonempty : t.text ≠ [] := by
    cases reads with
    | endOfInput text => exact absurd rfl more
    | separator text before => simp [Token.text]
    | lineBreak text => simp [Token.text, Bytes.lineBreak]
    | keyword text boundary => simp [Token.text, Wire.keyword]
    | identifier text nonempty inside start other boundary => exact nonempty
  rw [offset, List.length_append]
  have := List.length_pos_iff.mpr nonempty
  omega

theorem Reads.boundary (reads : c.Reads t c') (run : t.IsRun) : Boundary c.inRun c'.rest := by
  cases reads with
  | endOfInput text => exact run.elim
  | separator text before => exact run.elim
  | lineBreak text => exact run.elim
  | keyword text boundary => exact boundary
  | identifier text nonempty inside start other boundary => exact boundary

theorem next_iterate_of_sticks {b : UInt8} (sticks : c.Sticks b c') (later : Nat) :
    ((fun c : Cursor => c.next.2)^[later] c').next =
      (.error (.invalidCharacter b c'.offset), c') := by
  have again := next_of_sticks sticks.again
  have fixed : (fun c : Cursor => c.next.2) c' = c' := congrArg Prod.snd again
  rw [Function.iterate_fixed fixed, again]

theorem sound_of_reads {tokens : List Token} (within : c.Within input)
    (mode : c.inValue = true ↔ SeparatorSince tokens) (reads : c.Reads t c') :
    Call.Sound input c tokens ⟨.ok t, c'⟩ := by
  obtain ⟨within', taken⟩ := within.reads reads
  refine
    { forward := ⟨?_, within'.le⟩, advances := ?_, lossless := ?_, exhausted := ?_, mode := mode
      identifier := ?_, longest := ?_, fault := nofun }
  · obtain ⟨indent, -, offset⟩ := reads.exists_text
    exact offset ▸ Nat.le_add_right ..
  · rintro _ ⟨rfl⟩ more
    exact reads.offset_lt more
  · rintro _ ⟨rfl⟩
    exact taken
  · rintro ⟨rfl⟩
    have nothing := within'.length_rest
    have le := within'.le
    cases reads with
    | endOfInput text => simp only [List.length_nil] at nothing le ⊢; omega
  · rintro run ⟨rfl⟩
    cases reads with
    | identifier text nonempty inside start other boundary => exact ⟨nonempty, other, inside⟩
  · rintro _ isRun ⟨rfl⟩ b following
    exact within'.boundary (reads.boundary isRun) following

theorem sound_of_sticks {tokens : List Token} {b : UInt8} (within : c.Within input)
    (mode : c.inValue = true ↔ SeparatorSince tokens) (sticks : c.Sticks b c') :
    Call.Sound input c tokens ⟨.error (.invalidCharacter b c'.offset), c'⟩ := by
  obtain ⟨within', indent, taken⟩ := within.sticks sticks
  have stays := next_iterate_of_sticks sticks
  cases sticks with
  | @intro _ rest text noSpace noColon noBreak noRun =>
    refine
      { forward := ⟨Nat.le_add_right .., within'.le⟩, advances := nofun, lossless := nofun
        exhausted := nofun, mode := mode, identifier := nofun, longest := nofun, fault := ?_ }
    rintro _ ⟨rfl⟩
    refine ⟨indent, b, taken, ?_, rfl, ⟨noSpace, noColon, noRun, fun cr => ?_⟩, stays⟩
    · exact within'.getElem?_offset 0
    · rw [within'.getElem?_offset 1, List.getElem?_cons_succ, ← List.head?_eq_getElem?]
      exact noBreak cr

theorem call_sound {tokens : List Token} (within : c.Within input)
    (mode : c.inValue = true ↔ SeparatorSince tokens) : c.call.Sound input c tokens := by
  cases result : c.next.1 with
  | ok t =>
    have same : c.call = ⟨.ok t, c.next.2⟩ := by rw [call, result]
    rw [same]
    exact sound_of_reads within mode (call_ok_iff.mp same)
  | error e =>
    have same : c.call = ⟨.error e, c.next.2⟩ := by rw [call, result]
    obtain ⟨b, rfl, sticks⟩ := sticks_of_next (c := c) (Prod.ext result rfl)
    rw [same]
    exact sound_of_sticks within mode sticks

theorem length_calls_le (c : Cursor) : c.calls.length ≤ c.rest.length + 1 := by
  fun_induction calls c with
  | case1 c stops => simp
  | case2 c goesOn ih =>
    have less := call_after_lt (Bool.eq_false_iff.mpr goesOn)
    rw [List.length_cons]
    omega

theorem exists_last_call (c : Cursor) :
    ∃ before last, c.calls = before ++ [last] ∧ last.stops = true := by
  fun_induction calls c with
  | case1 c stops => exact ⟨[], c.call, rfl, stops⟩
  | case2 c goesOn ih =>
    obtain ⟨before, last, same, stops⟩ := ih
    exact ⟨c.call :: before, last, by rw [same, List.cons_append], stops⟩

/-- From any place in the input each call does what it should, whatever the tokens before. -/
theorem mem_calls_sound {tokens : List Token} (within : c.Within input)
    (mode : c.inValue = true ↔ SeparatorSince tokens) {before after : List Call} {call : Call}
    (split : c.calls = before ++ call :: after) :
    call.Sound input (c.afterCalls before) (tokens ++ tokensOf before) := by
  have first : c.call.Sound input c tokens := call_sound within mode
  -- Along the calls: the tokens grow by what each of them gives, and the mode with them.
  fun_induction calls c generalizing tokens before with
  | case1 c stops =>
    obtain ⟨rfl, same⟩ : before = [] ∧ call = c.call := by
      cases before with
      | nil => exact ⟨rfl, (List.head_eq_of_cons_eq split).symm⟩
      | cons other rest => simp at split
    rw [same, tokensOf, List.filterMap_nil, List.append_nil]
    exact first
  | case2 c goesOn ih =>
    cases before with
    | nil =>
      rw [← List.head_eq_of_cons_eq split, tokensOf, List.filterMap_nil, List.append_nil]
      exact first
    | cons other rest =>
      obtain ⟨rfl, later⟩ := List.cons.inj split
      obtain ⟨t, c', same, reads, more⟩ := exists_reads_of_goes_on (Bool.eq_false_iff.mpr goesOn)
      have within' : c.call.after.Within input := by
        rw [same]
        exact (within.reads reads).1
      have mode' : c.call.after.inValue = true ↔ SeparatorSince (tokens ++ [t]) := by
        rw [same, separatorSince_concat, ← mode]
        exact reads.inValue_iff more
      have given : tokens ++ tokensOf (c.call :: rest) = tokens ++ [t] ++ tokensOf rest := by
        simp [tokensOf, same, Call.token?, Except.toOption]
      rw [afterCalls_cons, given]
      exact ih within' mode' later (call_sound within' mode')

/-- The calls from the front of the input on are no more than its octets and one, and end with the
end of the input or a fault.  Each of them goes on where the one before has stopped. -/
theorem calls_sound (input : Bytes) :
    let start : Cursor := { rest := input }
    start.calls.length ≤ input.length + 1 ∧
    (∃ before last, start.calls = before ++ [last] ∧ last.stops = true) ∧
    ∀ before call after, start.calls = before ++ call :: after →
      call.Sound input (start.afterCalls before) (tokensOf before) := by
  intro start
  refine ⟨length_calls_le start, exists_last_call start, fun before call after split => ?_⟩
  have mode : start.inValue = true ↔ SeparatorSince [] := by
    simp [start, not_separatorSince_nil]
  exact mem_calls_sound (within_start input) mode split

end Cursor

end SpeechClient.Wire
