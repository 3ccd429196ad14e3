import Mathlib.Data.List.TakeWhile
import SpeechClient.Wire.Parse

/-!
# What one read of a cursor takes

`Cursor.Reads` says, token by token, which octets a read takes and where it leaves the cursor:
spaces, then the text of the token, as long as its class of octets allows.  `read_eq_ok_iff` proves
the scanner equal to it, and all that is proved about the reading of frames goes through it.
-/

namespace SpeechClient.Wire

def spaces (count : Nat) : Bytes :=
  List.replicate count Bytes.space

@[simp] theorem spaces_zero : spaces 0 = [] := rfl

@[simp] theorem spaces_succ (count : Nat) :
    spaces (count + 1) = Bytes.space :: spaces count := rfl

@[simp] theorem length_spaces (count : Nat) : (spaces count).length = count := by
  simp [spaces]

/-- What follows a run does not belong to it. -/
def Boundary (p : UInt8 → Bool) (rest : Bytes) : Prop :=
  ∀ b, rest.head? = some b → p b = false

theorem boundary_nil (p : UInt8 → Bool) : Boundary p [] := by
  intro b head
  cases head

theorem boundary_cons {p : UInt8 → Bool} {b : UInt8} {rest : Bytes} :
    Boundary p (b :: rest) ↔ p b = false := by
  simp [Boundary]

theorem takeWhile_of_boundary {p : UInt8 → Bool} {run rest : Bytes}
    (inside : ∀ b ∈ run, p b = true) (boundary : Boundary p rest) :
    (run ++ rest).takeWhile p = run := by
  rw [List.takeWhile_append_of_pos inside]
  cases rest with
  | nil => simp
  | cons b rest => simp [boundary_cons.1 boundary]

theorem dropWhile_of_boundary {p : UInt8 → Bool} {run rest : Bytes}
    (inside : ∀ b ∈ run, p b = true) (boundary : Boundary p rest) :
    (run ++ rest).dropWhile p = rest := by
  rw [List.dropWhile_append_of_pos inside]
  cases rest with
  | nil => rfl
  | cons b rest => simp [boundary_cons.1 boundary]

theorem boundary_dropWhile (p : UInt8 → Bool) (b : Bytes) : Boundary p (b.dropWhile p) := by
  intro x head
  simpa [head] using List.head?_dropWhile_not p b

theorem spaces_append_dropWhile (b : Bytes) :
    ∃ count, b = spaces count ++ b.dropWhile (· == Bytes.space) ∧
      (b.takeWhile (· == Bytes.space)).length = count := by
  refine ⟨(b.takeWhile (· == Bytes.space)).length, ?_, rfl⟩
  have front : b.takeWhile (· == Bytes.space) =
      spaces (b.takeWhile (· == Bytes.space)).length := by
    rw [spaces, List.eq_replicate_iff]
    exact ⟨rfl, fun x member => by simpa using List.mem_takeWhile_imp member⟩
  rw [← front, List.takeWhile_append_dropWhile]

namespace Cursor

/-! ## The classes of octets -/

theorem inRun_cr (c : Cursor) : c.inRun Bytes.cr = false := by
  unfold inRun
  split <;> decide

theorem inRun_of_identifier {c : Cursor} {b : UInt8} (identifier : isIdentifierByte b = true) :
    c.inRun b = true := by
  unfold inRun
  split
  · simp [isValueByte, identifier]
  · exact identifier

theorem inRun_keyword (c : Cursor) : ∀ b ∈ keyword, c.inRun b = true := by
  have identifiers : keyword.all isIdentifierByte = true := by decide
  intro b member
  exact inRun_of_identifier (List.all_eq_true.mp identifiers b member)

/-! ## Reads -/

/-- A read takes spaces and then a token; a run ends where its class of octets does. -/
inductive Reads (c : Cursor) : Token → Cursor → Prop where
  | endOfInput {indent : Nat} (text : c.rest = spaces indent) :
      Reads c .endOfInput ⟨[], c.offset + indent, false⟩
  | separator {indent : Nat} {rest : Bytes} (text : c.rest = spaces indent ++ Bytes.colon :: rest)
      (before : c.inValue = false) :
      Reads c .separator ⟨rest, c.offset + indent + 1, true⟩
  | lineBreak {indent : Nat} {rest : Bytes}
      (text : c.rest = spaces indent ++ (Bytes.lineBreak ++ rest)) :
      Reads c .lineBreak ⟨rest, c.offset + indent + 2, false⟩
  | keyword {indent : Nat} {rest : Bytes} (text : c.rest = spaces indent ++ (Wire.keyword ++ rest))
      (boundary : Boundary c.inRun rest) :
      Reads c .keyword ⟨rest, c.offset + indent + Wire.keyword.length, c.inValue⟩
  | identifier {indent : Nat} {run rest : Bytes} (text : c.rest = spaces indent ++ (run ++ rest))
      (nonempty : run ≠ []) (inside : ∀ b ∈ run, c.inRun b = true)
      (start : run.head? ≠ some Bytes.space) (other : run ≠ Wire.keyword)
      (boundary : Boundary c.inRun rest) :
      Reads c (.identifier run) ⟨rest, c.offset + indent + run.length, c.inValue⟩

theorem skipSpaces_of_spaces {c : Cursor} {indent : Nat} {rest : Bytes}
    (text : c.rest = spaces indent ++ rest) (start : rest.head? ≠ some Bytes.space) :
    c.skipSpaces = ⟨rest, c.offset + indent, c.inValue⟩ := by
  have inside : ∀ b ∈ spaces indent, (b == Bytes.space) = true := by
    intro b member
    simpa using (List.mem_replicate.1 member).2
  have boundary : Boundary (· == Bytes.space) rest := by
    intro b head
    simpa using fun same : b = Bytes.space => start (same ▸ head)
  simp [skipSpaces, text, takeWhile_of_boundary inside boundary,
    dropWhile_of_boundary inside boundary]

theorem exists_skipSpaces (c : Cursor) :
    ∃ indent rest, c.rest = spaces indent ++ rest ∧ rest.head? ≠ some Bytes.space ∧
      c.skipSpaces = ⟨rest, c.offset + indent, c.inValue⟩ := by
  obtain ⟨indent, text, count⟩ := spaces_append_dropWhile c.rest
  have boundary := boundary_dropWhile (· == Bytes.space) c.rest
  have start : (c.rest.dropWhile (· == Bytes.space)).head? ≠ some Bytes.space := by
    intro head
    simpa using boundary _ head
  exact ⟨indent, _, text, start, skipSpaces_of_spaces text start⟩

theorem run_of_boundary {c : Cursor} {taken rest : Bytes} (text : c.rest = taken ++ rest)
    (inside : ∀ b ∈ taken, c.inRun b = true) (boundary : Boundary c.inRun rest) :
    c.run = (if taken = Wire.keyword then .keyword else .identifier taken,
      ⟨rest, c.offset + taken.length, c.inValue⟩) := by
  simp [run, text, takeWhile_of_boundary inside boundary, dropWhile_of_boundary inside boundary]

theorem token_of_run {c : Cursor} {b : UInt8} {rest : Bytes} (text : c.rest = b :: rest)
    (inside : c.inRun b = true) : c.token = (.ok c.run.1, c.run.2) := by
  -- The colon parts key and value only outside a value, and there no run has it.
  have noColon : (b == Bytes.colon && !c.inValue) = false := by
    cases mode : c.inValue with
    | true => simp
    | false =>
      have : isIdentifierByte b = true := by simpa [inRun, mode] using inside
      have : b ≠ Bytes.colon := by
        rintro rfl
        revert this
        decide
      simpa using this
  have noBreak : b ≠ Bytes.cr := by
    rintro rfl
    simp [inRun_cr] at inside
  simp [token, text, noColon, noBreak, inside]

theorem reads_sound {c c' : Cursor} {t : Token} (read : c.read = .ok (t, c')) : c.Reads t c' := by
  obtain ⟨indent, rest, text, start, skipped⟩ := exists_skipSpaces c
  have token : (⟨rest, c.offset + indent, c.inValue⟩ : Cursor).token = (.ok t, c') := by
    unfold Cursor.read at read
    rw [next, skipped] at read
    split at read
    next _ _ result => cases read; exact result
    next => cases read
  -- The cases of the scanner are those of `Reads`, in the same order.
  unfold Cursor.token at token
  split at token
  next empty =>
    cases token
    subst empty
    exact .endOfInput (by simpa using text)
  next b tail shape =>
    subst shape
    split at token
    next colon =>
      cases token
      simp only [Bool.and_eq_true, beq_iff_eq, Bool.not_eq_true'] at colon
      obtain ⟨rfl, before⟩ := colon
      exact .separator text before
    split at token
    next lineBreak =>
      cases token
      simp only [Bool.and_eq_true, beq_iff_eq] at lineBreak
      obtain ⟨rfl, lf⟩ := lineBreak
      obtain ⟨rest, rfl⟩ : ∃ rest, tail = Bytes.lf :: rest := by
        cases tail with
        | nil => cases lf
        | cons x rest => exact ⟨rest, by simpa using lf⟩
      exact .lineBreak text
    split at token
    next inside =>
      -- The run is cut where its class ends, so nothing of that class can follow it.
      let d : Cursor := ⟨b :: tail, c.offset + indent, c.inValue⟩
      let taken := (b :: tail).takeWhile c.inRun
      have whole : b :: tail = taken ++ (b :: tail).dropWhile c.inRun :=
        (List.takeWhile_append_dropWhile).symm
      have members : ∀ x ∈ taken, c.inRun x = true :=
        fun x member => List.mem_takeWhile_imp member
      have boundary := boundary_dropWhile c.inRun (b :: tail)
      have run := run_of_boundary (c := d) whole members boundary
      have first : taken.head? = some b := by
        have : c.inRun b = true := inside
        simp [taken, this]
      change (Except.ok d.run.1, d.run.2) = _ at token
      rw [run] at token
      rw [whole] at text
      split at token
      next isKeyword =>
        cases token
        rw [isKeyword] at text ⊢
        exact .keyword text boundary
      next other =>
        cases token
        refine .identifier text ?_ members (by rw [first]; exact start) other boundary
        intro empty
        rw [empty] at first
        cases first
    · cases token

theorem read_of_token {c c' d : Cursor} {t : Token} (skipped : c.skipSpaces = d)
    (token : d.token = (.ok t, c')) : c.read = .ok (t, c') := by
  simp [Cursor.read, next, skipped, token]

theorem read_run {c : Cursor} {indent : Nat} {taken rest : Bytes}
    (text : c.rest = spaces indent ++ (taken ++ rest)) (nonempty : taken ≠ [])
    (inside : ∀ b ∈ taken, c.inRun b = true) (start : taken.head? ≠ some Bytes.space)
    (boundary : Boundary c.inRun rest) :
    c.read = .ok (if taken = Wire.keyword then .keyword else .identifier taken,
      ⟨rest, c.offset + indent + taken.length, c.inValue⟩) := by
  obtain ⟨b, tail, rfl⟩ := List.exists_cons_of_ne_nil nonempty
  let d : Cursor := ⟨b :: tail ++ rest, c.offset + indent, c.inValue⟩
  have skipped : c.skipSpaces = d := skipSpaces_of_spaces text (by simpa using start)
  have token : d.token = (.ok d.run.1, d.run.2) :=
    token_of_run (c := d) rfl (inside b List.mem_cons_self)
  have run := run_of_boundary (c := d) rfl inside boundary
  exact read_of_token skipped (by rw [token, run])

theorem read_of_reads {c c' : Cursor} {t : Token} (reads : c.Reads t c') :
    c.read = .ok (t, c') := by
  cases reads with
  | endOfInput text =>
    have skipped := skipSpaces_of_spaces (text.trans (List.append_nil _).symm) nofun
    exact read_of_token skipped rfl
  | separator text before =>
    have skipped := skipSpaces_of_spaces text (by simp; decide)
    exact read_of_token skipped (by simp [token, before])
  | lineBreak text =>
    have skipped := skipSpaces_of_spaces text (by simp [Bytes.lineBreak]; decide)
    exact read_of_token skipped rfl
  | keyword text boundary =>
    rw [read_run text (by decide) (inRun_keyword c) (by decide) boundary, if_pos rfl]
  | identifier text nonempty inside start other boundary =>
    rw [read_run text nonempty inside start boundary, if_neg other]

/-- The scanner takes what `Reads` says, and nothing else. -/
theorem read_eq_ok_iff {c c' : Cursor} {t : Token} : c.read = .ok (t, c') ↔ c.Reads t c' :=
  ⟨reads_sound, read_of_reads⟩

end Cursor

end SpeechClient.Wire
