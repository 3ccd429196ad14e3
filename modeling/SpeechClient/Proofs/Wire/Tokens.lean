import SpeechClient.Proofs.Wire.Calls
import SpeechClient.Proofs.Wire.Grammar

/-!
# The tokens of a head

Read token by token, the head of a frame is a regular language.  `FrameText.tokens` are the tokens
of a text of the grammar; `Place` says where in the grammar the next token is awaited, and
`Place.next` where it leads.

- `Viable`: the tokens that some text of the grammar begins with.
- `Place.Accepts`: the tokens that may follow at a place, up to the end of the head.
- `Place.exists_next_of_accepts`, `Place.accepts_of_next`: a token may come at a place exactly if it
  leads somewhere.
-/

namespace SpeechClient.Wire

/-! ## Texts as tokens -/

/-- An empty value has no token. -/
def valueTokens (value : Bytes) : List Token :=
  if value = [] then []
  else if value = keyword then [.keyword]
  else [.identifier value]

def LineText.tokens (line : LineText) : List Token :=
  .identifier line.key :: .separator :: valueTokens line.value

/-- Of what follows a blank line nothing is read. -/
def HeadersEnd.tokens : HeadersEnd → List Token
  | .input _ => [.endOfInput]
  | .openLine line => line.tokens ++ [.endOfInput]
  | .blankLine _ _ => [.lineBreak]

def HeadersText.tokens (text : HeadersText) : List Token :=
  text.lines.flatMap (fun line => line.tokens ++ [.lineBreak]) ++ text.ending.tokens

def tailTokens : Option HeadersText → List Token
  | none => [.endOfInput]
  | some headers => .lineBreak :: headers.tokens

def FrameText.tokens (text : FrameText) : List Token :=
  text.blankLines.map (fun _ => .lineBreak) ++
    .keyword :: .identifier text.version :: .identifier text.command :: tailTokens text.headers

/-- Some text of the grammar begins with these tokens. -/
def Viable (tokens : List Token) : Prop :=
  ∃ text : FrameText, tokens <+: text.tokens

theorem HeadersText.tokens_cons (line : LineText) (lines : List LineText) (ending : HeadersEnd) :
    HeadersText.tokens ⟨line :: lines, ending⟩ =
      line.tokens ++ tailTokens (some ⟨lines, ending⟩) := by
  simp [HeadersText.tokens, tailTokens]

/-- Lines begin with a line, and what is left begins with the end of that line. -/
theorem HeadersText.tokens_cases (text : HeadersText) :
    text.tokens = [.endOfInput] ∨ text.tokens = [.lineBreak] ∨
      ∃ line tail, text.tokens = LineText.tokens line ++ tailTokens tail := by
  obtain ⟨lines, ending⟩ := text
  cases lines with
  | nil =>
    cases ending with
    | input indent => exact .inl rfl
    | openLine line => exact .inr (.inr ⟨line, none, rfl⟩)
    | blankLine indent rest => exact .inr (.inl rfl)
  | cons line lines => exact .inr (.inr ⟨line, some ⟨lines, ending⟩, tokens_cons line lines ending⟩)

theorem HeadersText.exists_tokens (line : LineText) (tail : Option HeadersText) :
    ∃ text : HeadersText, text.tokens = line.tokens ++ tailTokens tail := by
  cases tail with
  | none => exact ⟨⟨[], .openLine line⟩, rfl⟩
  | some rest => exact ⟨⟨line :: rest.lines, rest.ending⟩, tokens_cons line rest.lines rest.ending⟩

theorem valueTokens_cases (value : Bytes) : valueTokens value = [] ∨
    valueTokens value = [.keyword] ∨ ∃ run, valueTokens value = [.identifier run] := by
  unfold valueTokens
  split
  · exact .inl rfl
  split
  · exact .inr (.inl rfl)
  · exact .inr (.inr ⟨value, rfl⟩)

theorem isValue_nil : IsValue [] := by
  decide

theorem isValue_keyword : IsValue keyword := by
  decide

/-! ## Places in the grammar -/

/-- Where in the grammar the next token is awaited. -/
inductive Place where
  /-- Before the status line. -/
  | opening
  | version
  | command
  /-- Behind the command. -/
  | statusEnd
  /-- Where a header line may begin. -/
  | line
  | colon
  | value
  /-- Behind a value. -/
  | lineEnd
  /-- The head is over. -/
  | finished
  deriving DecidableEq

namespace Place

def next : Place → Token → Option Place
  | opening, .lineBreak => some opening
  | opening, .keyword => some version
  | version, .identifier _ => some command
  | command, .identifier _ => some statusEnd
  | statusEnd, .lineBreak | lineEnd, .lineBreak | value, .lineBreak => some line
  | line, .identifier _ => some colon
  | colon, .separator => some value
  | value, .identifier _ | value, .keyword => some lineEnd
  | line, .lineBreak | line, .endOfInput => some finished
  | statusEnd, .endOfInput | lineEnd, .endOfInput | value, .endOfInput => some finished
  | _, _ => none

def inValue : Place → Bool
  | value | lineEnd => true
  | _ => false

/-- The tokens that may follow, up to the end of the head. -/
def Accepts : Place → List Token → Prop
  | opening, tokens => ∃ text : FrameText, tokens = text.tokens
  | version, tokens => ∃ version command tail, IsName version ∧ IsName command ∧
      tokens = .identifier version :: .identifier command :: tailTokens tail
  | command, tokens => ∃ command tail, IsName command ∧
      tokens = .identifier command :: tailTokens tail
  | statusEnd, tokens | lineEnd, tokens => ∃ tail, tokens = tailTokens tail
  | line, tokens => ∃ text : HeadersText, tokens = text.tokens
  | colon, tokens => ∃ value tail, IsValue value ∧
      tokens = .separator :: (valueTokens value ++ tailTokens tail)
  | value, tokens => ∃ value tail, IsValue value ∧ tokens = valueTokens value ++ tailTokens tail
  | finished, tokens => tokens = []

/-- A run has the octets that it must have at this place. -/
def Fits (p : Place) : Token → Prop
  | .identifier run => if p.inValue then IsValue run ∧ run ≠ [] ∧ run ≠ keyword else IsName run
  | _ => True

variable {p q : Place} {t : Token} {tokens : List Token}

theorem exists_next_of_tail {tail : Option HeadersText} (same : t :: tokens = tailTokens tail) :
    t = .endOfInput ∧ tokens = [] ∨ t = .lineBreak ∧ line.Accepts tokens := by
  cases tail with
  | none =>
    obtain ⟨rfl, rfl⟩ := List.cons.inj same
    exact .inl ⟨rfl, rfl⟩
  | some headers =>
    obtain ⟨rfl, rfl⟩ := List.cons.inj same
    exact .inr ⟨rfl, headers, rfl⟩

/-- Nothing may come at a place that does not lead to where the rest may come. -/
theorem exists_next_of_accepts (accepts : p.Accepts (t :: tokens)) :
    ∃ q, p.next t = some q ∧ q.Accepts tokens := by
  have ending {q : Place} (toLine : q.next .lineBreak = some line)
      (toEnd : q.next .endOfInput = some finished) {tail : Option HeadersText}
      (same : t :: tokens = tailTokens tail) : ∃ q', q.next t = some q' ∧ q'.Accepts tokens := by
    obtain ⟨rfl, rfl⟩ | ⟨rfl, follows⟩ := exists_next_of_tail same
    · exact ⟨finished, toEnd, rfl⟩
    · exact ⟨line, toLine, follows⟩
  cases p with
  | opening =>
    obtain ⟨⟨blankLines, indent, versionGap, version, commandGap, command, trailing, headers,
      isVersion, isCommand⟩, same⟩ := accepts
    cases blankLines with
    | nil =>
      obtain ⟨rfl, rfl⟩ := List.cons.inj same
      exact ⟨_, rfl, version, command, headers, isVersion, isCommand, rfl⟩
    | cons blank blankLines =>
      obtain ⟨rfl, rfl⟩ := List.cons.inj same
      exact ⟨opening, rfl, ⟨blankLines, indent, versionGap, version, commandGap, command, trailing,
        headers, isVersion, isCommand⟩, rfl⟩
  | version =>
    obtain ⟨version, command, tail, isVersion, isCommand, same⟩ := accepts
    obtain ⟨rfl, rfl⟩ := List.cons.inj same
    exact ⟨_, rfl, command, tail, isCommand, rfl⟩
  | command =>
    obtain ⟨command, tail, isCommand, same⟩ := accepts
    obtain ⟨rfl, rfl⟩ := List.cons.inj same
    exact ⟨_, rfl, tail, rfl⟩
  | statusEnd =>
    obtain ⟨tail, same⟩ := accepts
    exact ending rfl rfl same
  | lineEnd =>
    obtain ⟨tail, same⟩ := accepts
    exact ending rfl rfl same
  | line =>
    obtain ⟨text, same⟩ := accepts
    obtain shape | shape | ⟨line, tail, shape⟩ := text.tokens_cases
    · obtain ⟨rfl, rfl⟩ := List.cons.inj (same.trans shape)
      exact ⟨finished, rfl, rfl⟩
    · obtain ⟨rfl, rfl⟩ := List.cons.inj (same.trans shape)
      exact ⟨finished, rfl, rfl⟩
    · obtain ⟨rfl, rfl⟩ := List.cons.inj (same.trans shape)
      exact ⟨colon, rfl, line.value, tail, line.value_isValue, rfl⟩
  | colon =>
    obtain ⟨value, tail, isValue, same⟩ := accepts
    obtain ⟨rfl, rfl⟩ := List.cons.inj same
    exact ⟨_, rfl, value, tail, isValue, rfl⟩
  | value =>
    obtain ⟨value, tail, isValue, same⟩ := accepts
    obtain none | keyword | ⟨run, other⟩ := valueTokens_cases value
    · rw [none] at same
      exact ending rfl rfl same
    · rw [keyword] at same
      obtain ⟨rfl, rfl⟩ := List.cons.inj same
      exact ⟨lineEnd, rfl, tail, rfl⟩
    · rw [other] at same
      obtain ⟨rfl, rfl⟩ := List.cons.inj same
      exact ⟨lineEnd, rfl, tail, rfl⟩
  | finished => cases accepts

/-- What leads somewhere may come, and then whatever may come there. -/
theorem accepts_of_next (next : p.next t = some q) (fits : p.Fits t) (accepts : q.Accepts tokens) :
    p.Accepts (t :: tokens) := by
  cases p with
  | opening =>
    cases t with
    | lineBreak =>
      cases next
      obtain ⟨text, rfl⟩ := accepts
      exact ⟨{ text with blankLines := 0 :: text.blankLines }, rfl⟩
    | keyword =>
      cases next
      obtain ⟨version, command, tail, isVersion, isCommand, rfl⟩ := accepts
      exact ⟨⟨[], 0, 0, version, 0, command, 0, tail, isVersion, isCommand⟩, rfl⟩
    | _ => cases next
  | version =>
    cases t with
    | identifier run =>
      cases next
      obtain ⟨command, tail, isCommand, rfl⟩ := accepts
      exact ⟨run, command, tail, fits, isCommand, rfl⟩
    | _ => cases next
  | command =>
    cases t with
    | identifier run =>
      cases next
      obtain ⟨tail, rfl⟩ := accepts
      exact ⟨run, tail, fits, rfl⟩
    | _ => cases next
  | statusEnd | lineEnd =>
    cases t with
    | lineBreak =>
      cases next
      obtain ⟨text, rfl⟩ := accepts
      exact ⟨some text, rfl⟩
    | endOfInput =>
      cases next
      cases accepts
      exact ⟨none, rfl⟩
    | _ => cases next
  | line =>
    cases t with
    | identifier run =>
      cases next
      obtain ⟨value, tail, isValue, rfl⟩ := accepts
      obtain ⟨text, same⟩ := HeadersText.exists_tokens ⟨0, run, 0, 0, value, fits, isValue⟩ tail
      exact ⟨text, same.symm⟩
    | lineBreak =>
      cases next
      cases accepts
      exact ⟨⟨[], .blankLine 0 []⟩, rfl⟩
    | endOfInput =>
      cases next
      cases accepts
      exact ⟨⟨[], .input 0⟩, rfl⟩
    | _ => cases next
  | colon =>
    cases t with
    | separator =>
      cases next
      obtain ⟨value, tail, isValue, rfl⟩ := accepts
      exact ⟨value, tail, isValue, rfl⟩
    | _ => cases next
  | value =>
    cases t with
    | identifier run =>
      cases next
      obtain ⟨tail, rfl⟩ := accepts
      obtain ⟨isValue, nonempty, other⟩ := fits
      exact ⟨run, tail, isValue, by simp [valueTokens, nonempty, other]⟩
    | keyword =>
      cases next
      obtain ⟨tail, rfl⟩ := accepts
      exact ⟨keyword, tail, isValue_keyword, rfl⟩
    | lineBreak =>
      cases next
      obtain ⟨text, rfl⟩ := accepts
      exact ⟨[], some text, isValue_nil, rfl⟩
    | endOfInput =>
      cases next
      cases accepts
      exact ⟨[], none, isValue_nil, rfl⟩
    | separator => cases next
  | finished => cases t <;> cases next

/-- Until the head is over, something may come. -/
theorem exists_accepts (more : p ≠ finished) : ∃ t tokens, p.Accepts (t :: tokens) := by
  have name : IsName protocolVersion := by decide +kernel
  cases p with
  | opening => exact ⟨_, _, ⟨[], 0, 0, _, 0, _, 0, none, name, name⟩, rfl⟩
  | version => exact ⟨_, _, _, _, none, name, name, rfl⟩
  | command => exact ⟨_, _, _, none, name, rfl⟩
  | statusEnd => exact ⟨_, _, none, rfl⟩
  | lineEnd => exact ⟨_, _, none, rfl⟩
  | line => exact ⟨_, _, ⟨[], .input 0⟩, rfl⟩
  | colon => exact ⟨_, _, [], none, isValue_nil, rfl⟩
  | value => exact ⟨_, _, [], none, isValue_nil, rfl⟩
  | finished => exact absurd rfl more

end Place

end SpeechClient.Wire
