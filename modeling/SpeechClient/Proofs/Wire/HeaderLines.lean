import SpeechClient.Proofs.Wire.Grammar

/-!
# Reading header lines

A line is a name, a colon and a value; the scanner takes the name outside a value and the value
inside one.  From single lines follows the whole block: `Cursor.readHeaders_sound` and
`Cursor.readHeaders_of_text` are the two directions between what is read and what stands there.
-/

namespace SpeechClient.Wire

/-! ## Reading a header line -/

/-- A token that ends a header line, the octets it stands for, and what follows them. -/
inductive LineEnd : Token → Bytes → Bytes → Prop where
  | lineBreak (rest : Bytes) : LineEnd .lineBreak (Bytes.lineBreak ++ rest) rest
  | endOfInput : LineEnd .endOfInput [] []

namespace Cursor

theorem inRun_of_inValue {c : Cursor} (mode : c.inValue = true) : c.inRun = isValueByte := by
  funext b
  simp [inRun, mode]

theorem inRun_of_not_inValue {c : Cursor} (mode : c.inValue = false) :
    c.inRun = isIdentifierByte := by
  funext b
  simp [inRun, mode]

theorem boundary_of_lineEnd {t : Token} {rest rest' : Bytes} (c : Cursor)
    (lineEnd : LineEnd t rest rest') : Boundary c.inRun rest := by
  cases lineEnd with
  | lineBreak rest => exact boundary_cons.2 c.inRun_cr
  | endOfInput => exact boundary_nil _

theorem read_of_lineEnd {c : Cursor} {t : Token} {indent : Nat} {rest rest' : Bytes}
    (text : c.rest = spaces indent ++ rest) (lineEnd : LineEnd t rest rest') :
    ∃ offset, c.read = .ok (t, ⟨rest', offset, false⟩) := by
  cases lineEnd with
  | lineBreak rest => exact ⟨_, read_of_reads (.lineBreak text)⟩
  | endOfInput => exact ⟨_, read_of_reads (.endOfInput (by simpa using text))⟩

/-- In a value, what stands where a run cannot go on can only end the line. -/
theorem lineEnd_of_reads {c c' : Cursor} {t : Token} (mode : c.inValue = true)
    (boundary : Boundary c.inRun c.rest) (reads : c.Reads t c') :
    LineEnd t c.rest c'.rest ∧ c'.inValue = false := by
  have noSpace : ∀ {indent : Nat} {rest : Bytes}, c.rest = spaces indent ++ rest → indent = 0 := by
    intro indent rest text
    cases indent with
    | zero => rfl
    | succ indent =>
      rw [text, spaces_succ, List.cons_append, boundary_cons, inRun_of_inValue mode] at boundary
      exact absurd boundary (by decide)
  have noRun : ∀ {indent : Nat} {run rest : Bytes}, c.rest = spaces indent ++ (run ++ rest) →
      run ≠ [] → (∀ b ∈ run, c.inRun b = true) → False := by
    intro indent run rest text nonempty inside
    obtain rfl := noSpace text
    obtain ⟨b, tail, rfl⟩ := List.exists_cons_of_ne_nil nonempty
    rw [text] at boundary
    have outside : c.inRun b = false := boundary_cons.1 boundary
    simp [inside b List.mem_cons_self] at outside
  cases reads with
  | endOfInput text =>
    obtain rfl := noSpace (text.trans (List.append_nil _).symm)
    exact ⟨text ▸ .endOfInput, rfl⟩
  | separator text before => simp [mode] at before
  | lineBreak text =>
    obtain rfl := noSpace text
    exact ⟨text ▸ .lineBreak _, rfl⟩
  | keyword text _ => exact (noRun text (by decide) c.inRun_keyword).elim
  | identifier text nonempty inside _ _ _ => exact (noRun text nonempty inside).elim

theorem readValue_sound {c c' : Cursor} {value : Bytes} {t : Token} (mode : c.inValue = true)
    (read : c.readValue = .ok (value, t, c')) :
    ∃ indent rest, c.rest = spaces indent ++ (value ++ rest) ∧ IsValue value ∧
      LineEnd t rest c'.rest ∧ c'.inValue = false := by
  -- A run and the keyword are values alike, and behind either only the line can end.
  have after : ∀ {d : Cursor} {run : Bytes},
      (d.read.map fun p => (run, p.1, p.2)) = .ok (value, t, c') →
        d.inValue = true → Boundary d.inRun d.rest →
          run = value ∧ LineEnd t d.rest c'.rest ∧ c'.inValue = false := by
    intro d run result mode boundary
    cases second : d.read with
    | error e => simp [second, Except.map] at result
    | ok p =>
      obtain ⟨t', c''⟩ := p
      simp only [second, Except.map, Except.ok.injEq, Prod.mk.injEq] at result
      obtain ⟨rfl, rfl, rfl⟩ := result
      exact ⟨rfl, lineEnd_of_reads mode boundary (reads_sound second)⟩
  unfold readValue at read
  split at read
  · cases read
  next run c₁ first =>
    cases reads_sound first with
    | identifier text nonempty inside start other boundary =>
      obtain ⟨rfl, lineEnd, mode'⟩ := after read mode boundary
      rw [inRun_of_inValue mode] at inside
      exact ⟨_, _, text, ⟨inside, start⟩, lineEnd, mode'⟩
  next c₁ first =>
    cases reads_sound first with
    | keyword text boundary =>
      obtain ⟨rfl, lineEnd, mode'⟩ := after read mode boundary
      have values : keyword.all isValueByte = true := by decide
      exact ⟨_, _, text, ⟨List.all_eq_true.mp values, by decide⟩, lineEnd, mode'⟩
  next t' c₁ noIdentifier noKeyword first =>
    cases read
    cases reads_sound first with
    | endOfInput text => exact ⟨_, [], by simpa using text, ⟨by simp, by simp⟩, .endOfInput, rfl⟩
    | separator text before => simp [mode] at before
    | lineBreak text => exact ⟨_, _, text, ⟨by simp, by simp⟩, .lineBreak _, rfl⟩
    | keyword text _ => exact (noKeyword rfl).elim
    | identifier text _ _ _ _ _ => exact (noIdentifier _ rfl).elim

theorem readValue_of_text {c : Cursor} {value rest rest' : Bytes} {t : Token} {indent : Nat}
    (mode : c.inValue = true) (text : c.rest = spaces indent ++ (value ++ rest))
    (valid : IsValue value) (lineEnd : LineEnd t rest rest') :
    ∃ offset, c.readValue = .ok (value, t, ⟨rest', offset, false⟩) := by
  -- An empty value has no token of its own: the first read already gives what ends the line.
  by_cases empty : value = []
  · subst empty
    obtain ⟨offset, read⟩ := read_of_lineEnd text lineEnd
    refine ⟨offset, ?_⟩
    cases lineEnd <;> simp [readValue, read]
  · have inside : ∀ b ∈ value, c.inRun b = true := by
      rw [inRun_of_inValue mode]
      exact valid.1
    have first := read_run text empty inside valid.2 (boundary_of_lineEnd c lineEnd)
    have behind : rest = spaces 0 ++ rest := rfl
    obtain ⟨offset, second⟩ := read_of_lineEnd
      (c := ⟨rest, c.offset + indent + value.length, c.inValue⟩) behind lineEnd
    refine ⟨offset, ?_⟩
    split at first
    next isKeyword =>
      subst isKeyword
      simp [readValue, first, second, Except.map]
    next => simp [readValue, first, second, Except.map]

theorem readAfterKey_sound {c c' : Cursor} {value : Bytes} {t : Token}
    (read : c.readAfterKey = .ok (value, t, c')) :
    ∃ before after rest,
      c.rest = spaces before ++ Bytes.colon :: (spaces after ++ (value ++ rest)) ∧
      IsValue value ∧ LineEnd t rest c'.rest ∧ c'.inValue = false := by
  unfold readAfterKey at read
  split at read
  · cases read
  next c₁ first =>
    cases reads_sound first with
    | separator text _ =>
      obtain ⟨after, rest, valueText, valid, lineEnd, mode'⟩ := readValue_sound rfl read
      exact ⟨_, after, rest, by rw [text, ← valueText], valid, lineEnd, mode'⟩
  · cases read

theorem readAfterKey_of_text {c : Cursor} {value rest rest' : Bytes} {t : Token}
    {before after : Nat} (mode : c.inValue = false)
    (text : c.rest = spaces before ++ Bytes.colon :: (spaces after ++ (value ++ rest)))
    (valid : IsValue value) (lineEnd : LineEnd t rest rest') :
    ∃ offset, c.readAfterKey = .ok (value, t, ⟨rest', offset, false⟩) := by
  have first := read_of_reads (.separator text mode)
  obtain ⟨offset, second⟩ := readValue_of_text
    (c := ⟨spaces after ++ (value ++ rest), c.offset + before + 1, true⟩) rfl rfl valid lineEnd
  exact ⟨offset, by simp [readAfterKey, first, second]⟩

/-! ## Names -/

theorem head_isName {name : Bytes} (valid : IsName name) : name.head? ≠ some Bytes.space := by
  intro head
  have : isIdentifierByte Bytes.space = true := valid.2.1 _ (List.mem_of_head? head)
  exact absurd this (by decide)

theorem boundary_spaces {count : Nat} {rest : Bytes} (boundary : Boundary isIdentifierByte rest) :
    Boundary isIdentifierByte (spaces count ++ rest) := by
  cases count with
  | zero => exact boundary
  | succ count => exact boundary_cons.2 (by decide)

theorem read_of_name {c : Cursor} {name rest : Bytes} {indent : Nat} (mode : c.inValue = false)
    (text : c.rest = spaces indent ++ (name ++ rest)) (valid : IsName name)
    (boundary : Boundary isIdentifierByte rest) :
    ∃ offset, c.read = .ok (.identifier name, ⟨rest, offset, false⟩) := by
  rw [← inRun_of_not_inValue mode] at boundary
  have inside : ∀ b ∈ name, c.inRun b = true := by
    rw [inRun_of_not_inValue mode]
    exact valid.2.1
  refine ⟨c.offset + indent + name.length, ?_⟩
  rw [← mode]
  exact read_of_reads (.identifier text valid.1 inside (head_isName valid) valid.2.2 boundary)

theorem name_sound {c c' : Cursor} {name : Bytes}
    (read : c.read = .ok (.identifier name, c')) (mode : c.inValue = false) :
    ∃ indent, c.rest = spaces indent ++ (name ++ c'.rest) ∧ IsName name ∧
      Boundary isIdentifierByte c'.rest ∧ c'.inValue = false := by
  cases reads_sound read with
  | identifier text nonempty inside start other boundary =>
    rw [inRun_of_not_inValue mode] at inside boundary
    exact ⟨_, text, ⟨nonempty, inside, other⟩, boundary, mode⟩

end Cursor

/-! ## Reading the header lines -/

namespace Cursor

theorem readLine_of_text {c : Cursor} {line : LineText} {rest rest' : Bytes} {t : Token}
    (mode : c.inValue = false) (text : c.rest = line.octets ++ rest)
    (lineEnd : LineEnd t rest rest') :
    ∃ c₁ offset, c.read = .ok (.identifier line.key, c₁) ∧
      c₁.readAfterKey = .ok (line.value, t, ⟨rest', offset, false⟩) := by
  have parts : c.rest = spaces line.indent ++ (line.key ++ (spaces line.beforeColon ++
      Bytes.colon :: (spaces line.afterColon ++ (line.value ++ rest)))) := by
    simp [text, LineText.octets]
  obtain ⟨offset₁, first⟩ := read_of_name mode parts line.key_isName
    (boundary_spaces (boundary_cons.2 (by decide)))
  obtain ⟨offset, second⟩ := readAfterKey_of_text (c := ⟨_, offset₁, false⟩) rfl rfl
    line.value_isValue lineEnd
  exact ⟨_, offset, first, second⟩

theorem line_sound {c c₁ c' : Cursor} {key value : Bytes} {t : Token} (mode : c.inValue = false)
    (first : c.read = .ok (.identifier key, c₁))
    (second : c₁.readAfterKey = .ok (value, t, c')) :
    ∃ line : LineText, ∃ rest, line.key = key ∧ line.value = value ∧
      c.rest = line.octets ++ rest ∧ LineEnd t rest c'.rest ∧ c'.inValue = false := by
  obtain ⟨indent, keyText, keyValid, -, -⟩ := name_sound first mode
  obtain ⟨before, after, rest, valueText, valueValid, lineEnd, mode'⟩ := readAfterKey_sound second
  refine ⟨⟨indent, key, before, after, value, keyValid, valueValid⟩, rest, rfl, rfl, ?_, lineEnd,
    mode'⟩
  simp [LineText.octets, keyText, valueText]

theorem readHeaders_sound {c : Cursor} {headers headers' : Headers} {following : Option Bytes}
    (mode : c.inValue = false) (read : c.readHeaders headers = .ok (headers', following)) :
    ∃ text : HeadersText, c.rest = text.octets ∧
      headers' = insertLines headers text.allLines ∧ following = text.following := by
  -- A line that a break ends goes before the lines of the rest; any other way to stop is an ending.
  fun_induction readHeaders c headers with
  | case1 => cases read
  | case2 c headers c' first =>
    cases read
    cases reads_sound first with
    | endOfInput text => exact ⟨⟨[], .input _⟩, text, rfl, rfl⟩
  | case3 c headers c' first =>
    cases read
    cases reads_sound first with
    | @lineBreak indent rest text =>
      exact ⟨⟨[], .blankLine indent rest⟩,
        by simp [HeadersText.octets, HeadersEnd.octets, text], rfl, rfl⟩
  | case4 => cases read
  | case5 => cases read
  | case6 => cases read
  | case7 c headers key c₁ first value c₂ second ih =>
    obtain ⟨line, rest, rfl, rfl, lineText, lineEnd, mode₂⟩ := line_sound mode first second
    obtain ⟨text, rfl', insertions, follows⟩ := ih mode₂ read
    cases lineEnd with
    | lineBreak =>
      refine ⟨⟨line :: text.lines, text.ending⟩, ?_, ?_, ?_⟩
      · simp [HeadersText.octets, lineText, rfl']
      · rw [insertions]
        cases shape : text.ending <;> simp [HeadersText.allLines, insertLines, shape]
      · simpa [HeadersText.following] using follows
  | case8 c headers key c₁ first value c₂ second =>
    cases read
    obtain ⟨line, rest, rfl, rfl, lineText, lineEnd, -⟩ := line_sound mode first second
    generalize c₂.rest = rest' at lineEnd
    cases lineEnd
    exact ⟨⟨[], .openLine line⟩,
      by simpa [HeadersText.octets, HeadersEnd.octets] using lineText, rfl, rfl⟩
  | case9 => cases read

theorem readHeaders_of_text {c : Cursor} {text : HeadersText} (headers : Headers)
    (mode : c.inValue = false) (octets : c.rest = text.octets) :
    c.readHeaders headers = .ok (insertLines headers text.allLines, text.following) := by
  obtain ⟨lines, ending⟩ := text
  induction lines generalizing c headers with
  | nil =>
    cases ending with
    | input indent =>
      have first := read_of_reads (c := c) (.endOfInput octets)
      rw [readHeaders, first]
      rfl
    | openLine line =>
      have lineText : c.rest = line.octets ++ [] := by
        simpa [HeadersText.octets, HeadersEnd.octets] using octets
      obtain ⟨c₁, offset, first, second⟩ := readLine_of_text mode lineText .endOfInput
      rw [readHeaders, first]
      dsimp only
      rw [second]
      rfl
    | blankLine indent rest =>
      have breakText : c.rest = spaces indent ++ (Bytes.lineBreak ++ rest) := by
        simpa [HeadersText.octets, HeadersEnd.octets] using octets
      have first := read_of_reads (.lineBreak breakText)
      rw [readHeaders, first]
      rfl
  | cons line lines ih =>
    have lineText : c.rest =
        line.octets ++ (Bytes.lineBreak ++ HeadersText.octets ⟨lines, ending⟩) := by
      simpa [HeadersText.octets] using octets
    obtain ⟨c₁, offset, first, second⟩ := readLine_of_text mode lineText (.lineBreak _)
    rw [readHeaders, first]
    dsimp only
    rw [second]
    dsimp only
    rw [ih _ rfl rfl]
    cases ending <;> rfl

end Cursor

end SpeechClient.Wire
