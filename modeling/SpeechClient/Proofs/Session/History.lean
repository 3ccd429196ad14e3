import Mathlib.Data.List.DropRight
import SpeechClient.Proofs.Session.Face

/-!
# Histories of a recognizer

A history has a mark for everything that bears on the outcome of a recognition: what callers did and
what listeners heard.  What a wait ought to give is read off the history alone, by what came after
the latest mark of some kind.

- `Mark`, `History`: what happened.
- `History.undecided`, `firstError`, `results`: what a wait ought to give.
- `Standing`: the same as a fold, mark by mark.
-/

namespace SpeechClient

/-- What callers did and listeners heard.  A recognition that has just begun may turn out not to
have started; a canceled one is discarded, with its results. -/
inductive Mark where
  | begun
  | notStarted (error : RecognitionError)
  | heard (notification : Notification)
  | asked
  | discarded
  | taken
  | closed
  deriving DecidableEq

namespace Mark

def isBegun : Mark → Bool
  | begun => true
  | _ => false

/-- The recognition has its outcome. -/
def decides : Mark → Bool
  | heard (.result result) => result.lastSegment
  | heard (.error _) | notStarted _ | discarded => true
  | _ => false

/-- Nobody waits for the recognition any more. -/
def ends : Mark → Bool
  | taken | closed => true
  | _ => false

def heard? : Mark → Option Notification
  | heard n => some n
  | notStarted error => some (.error error)
  | _ => none

def result? : Mark → Option SegmentResult
  | heard (.result result) => some result
  | _ => none

/-- A failure that was recorded.  One that kept a recognition from starting went to its caller. -/
def error? : Mark → Option RecognitionError
  | heard (.error error) => some error
  | _ => none

end Mark

abbrev History := List Mark

namespace History

/-- What came after the latest mark of a kind. -/
def since (kind : Mark → Bool) (history : History) : History :=
  history.rtakeWhile fun mark => !kind mark

/-- The recognition that began last has not come to any of these ends. -/
def ongoing (halts : Mark → Bool) (history : History) : Bool :=
  history.any Mark.isBegun && !(history.since Mark.isBegun).any halts

def undecided : History → Bool :=
  ongoing Mark.decides

def running : History → Bool :=
  ongoing fun mark => mark.decides || mark.ends

def canceling (history : History) : Bool :=
  history.running && (history.since Mark.isBegun).contains .asked

def firstError (history : History) : Option RecognitionError :=
  (history.since fun mark => mark.isBegun || mark.ends).findSome? Mark.error?

def results (history : History) : List SegmentResult :=
  (history.since fun mark => mark.isBegun || mark.ends || mark = .discarded).filterMap
    Mark.result?

theorem since_concat (kind : Mark → Bool) (history : History) (mark : Mark) :
    since kind (history ++ [mark]) = if kind mark then [] else since kind history ++ [mark] := by
  unfold since
  rw [List.rtakeWhile_concat]
  cases kind mark <;> rfl

theorem ongoing_concat (halts : Mark → Bool) (history : History) (mark : Mark) :
    ongoing halts (history ++ [mark]) = (mark.isBegun || ongoing halts history && !halts mark) := by
  unfold ongoing
  rw [since_concat]
  cases mark.isBegun.eq_false_or_eq_true with
  | inl begun => simp [begun]
  | inr other => simp [other, Bool.and_assoc]

/-- As long as nobody gives a recognition up, to go on is to have had no outcome. -/
theorem undecided_eq_running_append {history marks : History}
    (same : history.undecided = history.running)
    (lasting : ∀ mark ∈ marks, mark.ends = false) :
    undecided (history ++ marks) = running (history ++ marks) := by
  induction marks generalizing history with
  | nil => simpa using same
  | cons mark rest after =>
    have now : undecided (history ++ [mark]) = running (history ++ [mark]) := by
      have goesOn : mark.ends = false := lasting mark (by simp)
      simp only [undecided, running] at same
      simp only [undecided, running, ongoing_concat, goesOn, Bool.or_false, same]
    have later := after now fun next member => lasting next (by simp [member])
    simpa using later

theorem undecided_eq_running_begun {history marks : History}
    (lasting : ∀ mark ∈ marks, mark.ends = false) :
    undecided (history ++ .begun :: marks) = running (history ++ .begun :: marks) := by
  have now : undecided (history ++ [.begun]) = running (history ++ [.begun]) := by
    simp [undecided, running, ongoing_concat, Mark.isBegun]
  simpa using undecided_eq_running_append now lasting

theorem firstError_concat (history : History) (mark : Mark) : firstError (history ++ [mark]) =
    if mark.isBegun || mark.ends then none else history.firstError.or mark.error? := by
  unfold firstError
  rw [since_concat]
  split
  · rfl
  · rw [List.findSome?_append, List.findSome?_singleton]

theorem results_concat (history : History) (mark : Mark) : results (history ++ [mark]) =
    if mark.isBegun || mark.ends || mark = .discarded then []
    else history.results ++ mark.result?.toList := by
  unfold results
  rw [since_concat]
  split
  · rfl
  · rw [List.filterMap_append]
    cases heard : mark.result? with
    | none => simp [heard]
    | some result => simp [heard]

theorem canceling_concat (history : History) (mark : Mark) : canceling (history ++ [mark]) =
    if mark = .asked then history.running
    else history.canceling && !mark.isBegun && !mark.decides && !mark.ends := by
  have began : running (history ++ [mark]) =
      (mark.isBegun || history.running && !(mark.decides || mark.ends)) :=
    ongoing_concat _ history mark
  unfold canceling
  rw [began, since_concat]
  by_cases asked : mark = .asked
  · subst asked
    simp [Mark.isBegun, Mark.decides, Mark.ends]
  · cases begun : mark.isBegun with
    | true => simp [asked]
    | false =>
      have same : (history.since Mark.isBegun ++ [mark]).contains .asked =
          (history.since Mark.isBegun).contains .asked := by
        simp [Ne.symm asked]
      simp only [Bool.false_or, Bool.false_eq_true, if_false, same, if_neg asked, Bool.not_false,
        Bool.true_and, Bool.not_or, Bool.and_assoc, Bool.and_comm, Bool.and_left_comm]

/-! ## The fold -/

/-- Where a recognition stands. -/
structure Standing where
  running : Bool
  canceling : Bool
  error : Option RecognitionError
  results : List SegmentResult

def Standing.after (s : Standing) : Mark → Standing
  | .begun => { running := true, canceling := false, error := none, results := [] }
  | .heard (.result result) =>
    { s with
      running := s.running && !result.lastSegment
      canceling := s.canceling && !result.lastSegment
      results := s.results ++ [result] }
  | .heard (.error error) =>
    { s with running := false, canceling := false, error := some (s.error.getD error) }
  | .heard _ => s
  | .notStarted _ => { s with running := false, canceling := false }
  | .asked => { s with canceling := s.running }
  | .discarded => { s with running := false, canceling := false, results := [] }
  | .taken | .closed => { running := false, canceling := false, error := none, results := [] }

def Standing.afterAll (s : Standing) (marks : History) : Standing :=
  marks.foldl after s

theorem Standing.afterAll_append (s : Standing) (first second : History) :
    s.afterAll (first ++ second) = (s.afterAll first).afterAll second :=
  List.foldl_append

def standing (history : History) : Standing :=
  { running := history.running, canceling := history.canceling, error := history.firstError
    results := history.results }

theorem standing_concat (history : History) (mark : Mark) :
    standing (history ++ [mark]) = history.standing.after mark := by
  have began : running (history ++ [mark]) =
      (mark.isBegun || history.running && !(mark.decides || mark.ends)) :=
    ongoing_concat _ history mark
  simp only [standing, began, canceling_concat, firstError_concat, results_concat]
  unfold Standing.after
  cases mark with
  | heard n =>
    cases n with
    | error error =>
      -- Only the first failure counts.
      cases history.firstError with
      | none => simp [Mark.isBegun, Mark.decides, Mark.ends, Mark.error?, Mark.result?]
      | some first => simp [Mark.isBegun, Mark.decides, Mark.ends, Mark.error?, Mark.result?]
    | _ => simp [Mark.isBegun, Mark.decides, Mark.ends, Mark.error?, Mark.result?]
  | _ => simp [Mark.isBegun, Mark.decides, Mark.ends, Mark.error?, Mark.result?]

theorem standing_append (history marks : History) :
    standing (history ++ marks) = history.standing.afterAll marks := by
  induction marks generalizing history with
  | nil => simp [Standing.afterAll]
  | cons mark rest after =>
    have later := after (history ++ [mark])
    rw [standing_concat] at later
    simpa [Standing.afterAll] using later

end History

end SpeechClient
