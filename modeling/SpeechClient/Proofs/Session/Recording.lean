import Mathlib.Data.List.DropRight
import SpeechClient.Proofs.Session.Events

/-!
# Outcomes recorded in a row

What is left of several outcomes that are recorded together: all results behind the last outcome
that discards them, the first failure, and whether the recognition goes on.  Whoever waits is woken
exactly if the outcomes end the wait, though the one is read off the outcomes and the other off the
handle.

- `Handle.commitAll_eq`: the handle afterwards, as one equation.
- `Handle.Recorded`: the same, told field by field.
- `Handle.record_recorded`: what recording does to the handle, and when it wakes.
-/

namespace SpeechClient

namespace Commit

def result? : Commit → Option SegmentResult
  | result r _ => some r
  | fail _ | finish _ => none

def error? : Commit → Option RecognitionError
  | fail error => some error
  | result _ _ | finish _ => none

/-- Exactly the outcomes that end the recognition wake whoever waits for it. -/
theorem wakes_eq_ends (outcome : Commit) : outcome.wakes = outcome.ends := by
  cases outcome with
  | result r last => cases last <;> rfl
  | fail error => rfl
  | finish discard => rfl

theorem ends_eq_false_iff {outcome : Commit} :
    outcome.ends = false ↔ ∃ r, outcome = .result r false := by
  cases outcome with
  | result r last => simp [ends]
  | fail error => simp [ends]
  | finish discard => simp [ends]

theorem any_ends_eq_false_iff {outcomes : List Commit} :
    outcomes.any ends = false ↔ ∀ outcome ∈ outcomes, ∃ r, outcome = .result r false := by
  simp only [List.any_eq_false, Bool.not_eq_true, ends_eq_false_iff]

end Commit

/-- What comes behind the last one that fails a test. -/
theorem rtakeWhile_of_split {α : Type} {p : α → Bool} {last : α} {after : List α}
    (before : List α) (fails : p last = false) (pass : ∀ x ∈ after, p x = true) :
    (before ++ last :: after).rtakeWhile p = after := by
  have pass : ∀ x ∈ after.reverse, p x = true := fun x member => pass x (List.mem_reverse.mp member)
  simp [List.rtakeWhile, List.takeWhile_append_of_pos pass, fails]

namespace Handle

variable {h : Handle} {outcomes : List Commit}

theorem commitAll_concat (h : Handle) (outcomes : List Commit) (outcome : Commit) :
    h.commitAll (outcomes ++ [outcome]) = (h.commitAll outcomes).commit outcome := by
  simp [commitAll]

/-- Results are added in order, and go with an outcome that discards them.  Of failures the first is
kept.  The recognition runs on if no outcome ends it. -/
theorem commitAll_eq (h : Handle) (outcomes : List Commit) : h.commitAll outcomes =
    { h with
      results := (if .finish true ∈ outcomes then [] else h.results) ++
        (outcomes.rtakeWhile (· ≠ .finish true)).filterMap Commit.result?
      error := h.error.or (outcomes.findSome? Commit.error?)
      recognizing := h.recognizing && !outcomes.any Commit.ends
      cancelPending := h.cancelPending && !outcomes.any Commit.ends } := by
  -- On the outcomes as they come: the last one acts on what all before it have left.
  induction outcomes using List.reverseRecOn with
  | nil => simp [commitAll]
  | append_singleton outcomes outcome ih =>
    rw [commitAll_concat, ih]
    simp only [List.rtakeWhile_concat, List.findSome?_append, List.any_append, List.mem_append,
      List.mem_singleton]
    cases outcome with
    | result r last =>
      cases last <;> simp [commit, finishRecognition, Commit.ends, Commit.error?, Commit.result?]
    | fail error =>
      cases earlier : h.error with
      | none =>
        cases first : outcomes.findSome? Commit.error? <;>
          simp [commit, finishRecognition, Commit.ends, Commit.error?, Commit.result?]
      | some e => simp [commit, finishRecognition, Commit.ends, Commit.error?, Commit.result?]
    | finish discard =>
      cases discard <;> simp [commit, finishRecognition, Commit.ends, Commit.error?, Commit.result?]

/-- What a handle is after outcomes recorded in a row. -/
structure Recorded (h : Handle) (outcomes : List Commit) (h' : Handle) : Prop where
  added : .finish true ∉ outcomes → h'.results = h.results ++ outcomes.filterMap Commit.result?
  /-- Of the last outcome that discards results only those behind it are left. -/
  discarded : ∀ before after, outcomes = before ++ .finish true :: after → .finish true ∉ after →
    h'.results = after.filterMap Commit.result?
  kept : ∀ error, h.error = some error → h'.error = some error
  first : h.error = none → h'.error = outcomes.findSome? Commit.error?
  running : (∀ outcome ∈ outcomes, ∃ r, outcome = .result r false) →
    h'.recognizing = h.recognizing ∧ h'.cancelPending = h.cancelPending
  ended : (∃ outcome ∈ outcomes, ∀ r, outcome ≠ .result r false) →
    h'.recognizing = false ∧ h'.cancelPending = false
  others : h' = { h with
    results := h'.results
    error := h'.error
    recognizing := h'.recognizing
    cancelPending := h'.cancelPending }

theorem commitAll_recorded (h : Handle) (outcomes : List Commit) :
    h.Recorded outcomes (h.commitAll outcomes) where
  added none := by
    have whole : outcomes.rtakeWhile (· ≠ .finish true) = outcomes :=
      List.rtakeWhile_eq_self_iff.mpr fun outcome member =>
        decide_eq_true fun same => none (same ▸ member)
    rw [commitAll_eq, whole, if_neg none]
  discarded before after split last := by
    have rest : outcomes.rtakeWhile (· ≠ .finish true) = after := by
      rw [split]
      exact rtakeWhile_of_split before (by simp) fun outcome member =>
        decide_eq_true fun same => last (same ▸ member)
    have member : .finish true ∈ outcomes := split ▸ List.mem_append_right before List.mem_cons_self
    rw [commitAll_eq, rest, if_pos member, List.nil_append]
  kept error known := by rw [commitAll_eq, known, Option.some_or]
  first unknown := by rw [commitAll_eq, unknown, Option.none_or]
  running lasting := by simp [commitAll_eq, Commit.any_ends_eq_false_iff.mpr lasting]
  ended ending := by
    have ends : outcomes.any Commit.ends = true := by
      refine (Bool.not_eq_false _).mp fun lasting => ?_
      obtain ⟨outcome, member, ends⟩ := ending
      obtain ⟨r, same⟩ := Commit.any_ends_eq_false_iff.mp lasting outcome member
      exact ends r same
    simp [commitAll_eq, ends]
  others := by rw [commitAll_eq]

/-- The wait is over with the first outcome that ends the recognition. -/
theorem commitAll_stillWaiting (h : Handle) (outcomes : List Commit) :
    (h.commitAll outcomes).stillWaiting = (h.stillWaiting && !outcomes.any Commit.ends) := by
  cases ends : outcomes.any Commit.ends with
  | true =>
    have stopped := h.commitAll_of_ends (List.any_eq_true.mp ends)
    simp [stillWaiting, stopped]
  | false =>
    have lasting : ∀ outcome ∈ outcomes, outcome.ends = false := by simpa using ends
    obtain ⟨results, same⟩ := h.commitAll_of_lasting lasting
    rw [same]
    simp [stillWaiting]

theorem record_fst (h : Handle) (outcomes : List Commit) :
    (h.record outcomes).1 = outcomes.any Commit.wakes := by
  cases outcomes with
  | nil => rfl
  | cons outcome rest => rfl

/-- Recording outcomes in a row leaves of the results, the failure and the flags what `Recorded`
says.  It wakes whoever waits exactly if one of the outcomes does, and that is so exactly if the
wait is over with the outcomes recorded. -/
theorem record_recorded (h : Handle) (outcomes : List Commit) :
    h.Recorded outcomes (h.record outcomes).2 ∧
      ((h.record outcomes).1 = true ↔ ∃ outcome ∈ outcomes, outcome.wakes = true) ∧
      (h.stillWaiting = true →
        ((h.record outcomes).2.stillWaiting = false ↔ (h.record outcomes).1 = true)) := by
  rw [record_snd, record_fst]
  refine ⟨h.commitAll_recorded outcomes, List.any_eq_true, fun waiting => ?_⟩
  have wakes : outcomes.any Commit.wakes = outcomes.any Commit.ends :=
    congrArg outcomes.any (funext Commit.wakes_eq_ends)
  rw [commitAll_stillWaiting, wakes, waiting, Bool.true_and, Bool.not_eq_false']

example : ({ recognizing := true } : Handle).record
      [.fail .activeRecognition, .finish true, .fail .invalidLanguageModel] =
    (true, { error := some .activeRecognition }) := by
  decide

end Handle

end SpeechClient
