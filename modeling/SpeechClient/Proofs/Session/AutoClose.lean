import SpeechClient.Proofs.Session.Noise

/-!
# Closing by itself

The settings can ask for a close after every outcome and every cancel.  That is neither more nor
less than what a caller does who closes after every wait that gives an outcome and every cancel that
succeeds, and whose callbacks do so, too.

- `Reaction.closing`: a callback that closes after each of its cancels.
- `Engine.interpose`: the script with the closes of the caller.
- `Engine.run_interposed`: it comes to the same as the run that closes by itself.
-/

namespace SpeechClient

namespace Reaction

/-- The same, with a close after each cancel that succeeds. -/
def closing : Reaction → Reaction
  | done => done
  | act action next => act action fun reply =>
    if action = .cancel ∧ reply = .done then act .close fun _ => (next reply).closing
    else (next reply).closing

end Reaction

namespace Engine

def lasting (e : Engine) : Engine :=
  { e with
    settings := { e.settings with autoClose := false }
    sources := e.sources.map (AudioSource.mapReactions Reaction.closing) }

/-- The recognition is over for the caller: a wait gave something else than that its limit was
reached, or a cancel succeeded.  A limit that an application's own source ran into is a failure that
was recorded like any other. -/
def concludes (operation : Operation) (answer : Answer) (e : Engine) : Bool :=
  match operation, answer with
  | .wait, .outcome (.error (.timeout _)) => e.handle.error.isSome
  | .wait, _ | .cancel, .reply .done => true
  | _, _ => false

/-- The operations, with a close after each that concludes a recognition. -/
def interpose (depth : Nat) : List (Outside × Operation) → Engine → Script
  | [], _ => []
  | (outside, operation) :: rest, e =>
    let outside := outside.mapReactions .closing
    let (answer, after) := e.step depth outside operation
    ⟨false, outside, operation⟩ ::
      if concludes operation answer e then
        ⟨true, outside, .close⟩ :: interpose depth rest (after.step depth outside .close).2
      else interpose depth rest after

/-! ## What is seen of both -/

/-- What is seen by others than the callback that acts. -/
def outward (seen : List Observation) : List Observation :=
  seen.filter fun o => o.acted?.isNone

def replies (seen : List Observation) : List (Action × Reply) :=
  seen.filterMap (·.acted?)

theorem outward_acted (seen : List Observation) (action : Action) (reply : Reply) :
    outward (seen ++ [.acted action reply]) = outward seen := by
  simp [outward, Observation.acted?]

theorem replies_acted (seen : List Observation) (action : Action) (reply : Reply) :
    replies (seen ++ [.acted action reply]) = replies seen ++ [(action, reply)] := by
  simp [replies, Observation.acted?]

/-- A callback is given something for the close after a cancel, too. -/
def withClose : Action × Reply → List (Action × Reply)
  | (.cancel, .done) => [(.cancel, .done), (.close, .done)]
  | other => [other]

/-- The same is seen of both, but the callbacks of the other one ask for closes themselves; some of
what these were given is ahead. -/
structure Matches (ahead : List (Action × Reply)) (own other : List Observation) : Prop where
  outward : outward other = outward own
  replies : replies other = (replies own).flatMap withClose ++ ahead

namespace Matches

variable {ahead : List (Action × Reply)} {own other : List Observation}

theorem nil : Matches [] [] [] :=
  ⟨rfl, rfl⟩

theorem plain {o : Observation} (plain : o.acted? = none) (same : Matches ahead own other) :
    Matches ahead (own ++ [o]) (other ++ [o]) := by
  constructor
  · simpa [Engine.outward] using same.outward
  · simpa [Engine.replies, plain] using same.replies

theorem acted {action : Action} {reply : Reply} (unclosing : ¬(action = .cancel ∧ reply = .done))
    (same : Matches [] own other) :
    Matches [] (own ++ [.acted action reply]) (other ++ [.acted action reply]) := by
  have once : withClose (action, reply) = [(action, reply)] := by
    unfold withClose
    split
    next canceled => exact absurd (Prod.mk.inj canceled) unclosing
    · rfl
  constructor
  · rw [outward_acted, outward_acted, same.outward]
  · rw [replies_acted, replies_acted, same.replies]
    simp [once]

/-- The other one has its reply to the cancel before it closes. -/
theorem canceled (same : Matches [] own other) :
    Matches [(.cancel, .done)] own (other ++ [.acted .cancel .done]) := by
  constructor
  · rw [outward_acted, same.outward]
  · rw [replies_acted, same.replies, List.append_nil]

theorem closed (same : Matches [(.cancel, .done)] own other) :
    Matches [] (own ++ [.acted .cancel .done]) (other ++ [.acted .close .done]) := by
  constructor
  · rw [outward_acted, outward_acted, same.outward]
  · rw [replies_acted, replies_acted, same.replies]
    simp [withClose]

end Matches

/-- A recognizer that does not close by itself, next to one that does. -/
def explicit (settings : Settings) (before after : List Observation)
    (ahead : List (Action × Reply)) : Guise where
  own := settings
  other := { settings with autoClose := false }
  userAgent := rfl
  maxWait := rfl
  protocol := rfl
  parameters := rfl
  known := false
  reaction := .closing
  reaction_done := rfl
  traces own other := ∃ more further, own = before ++ more ∧ other = after ++ further ∧
    Matches ahead more further
  concat := by
    rintro _ _ o plain ⟨more, further, rfl, rfl, same⟩
    exact ⟨more ++ [o], further ++ [o], by simp, by simp, same.plain plain⟩

/-! ## Callbacks side by side -/

variable {settings : Settings} {before after : List Observation} {e e' : Engine}

namespace Alike

theorem recordActed (alike : Alike (explicit settings before after []) e e') {action : Action}
    {reply : Reply} (unclosing : ¬(action = .cancel ∧ reply = .done)) :
    Alike (explicit settings before after []) (e.observe (.acted action reply))
      (e'.observe (.acted action reply)) := by
  obtain ⟨more, further, own, other, same⟩ := alike.traces
  exact alike.record ⟨_, _, by rw [own, List.append_assoc], by rw [other, List.append_assoc],
    same.acted unclosing⟩

theorem recordCanceled (alike : Alike (explicit settings before after []) e e') :
    Alike (explicit settings before after [(.cancel, .done)]) e
      (e'.observe (.acted .cancel .done)) := by
  obtain ⟨trace, own, more, further, seen, other, same⟩ := alike
  have image : ((explicit settings before after []).image trace e).observe (.acted .cancel .done) =
      (explicit settings before after [(.cancel, .done)]).image
        (trace ++ [.acted .cancel .done]) e := rfl
  rw [image]
  exact ⟨_, own, more, _, seen, by rw [other, List.append_assoc], same.canceled⟩

theorem recordClosed (alike : Alike (explicit settings before after [(.cancel, .done)]) e e') :
    Alike (explicit settings before after []) (e.observe (.acted .cancel .done))
      (e'.observe (.acted .close .done)) := by
  obtain ⟨trace, own, more, further, seen, other, same⟩ := alike
  have image : ((explicit settings before after [(.cancel, .done)]).image trace e).observe
        (.acted .close .done) = (explicit settings before after []).image
        (trace ++ [.acted .close .done]) (e.observe (.acted .cancel .done)) := rfl
  rw [image]
  exact ⟨_, own, _, _, by rw [← List.append_assoc, ← seen]; rfl,
    by rw [other, List.append_assoc], same.closed⟩

theorem autoClose_eq {ahead : List (Action × Reply)}
    (alike : Alike (explicit settings before after ahead) e e') (auto : settings.autoClose = true)
    (link : Link) :
    Engine.autoClose link e = Engine.close link e ∧ Engine.autoClose link e' = e' := by
  obtain ⟨own, other⟩ := alike.settings
  unfold Engine.autoClose
  rw [own, other]
  exact ⟨if_pos auto, if_neg (by simp [explicit])⟩

end Alike

section Callbacks

variable (link : Link)

theorem act_cancel {notify notify' : Notify}
    (tells : Tells (explicit settings before after []) notify notify')
    (auto : settings.autoClose = true) (alike : Alike (explicit settings before after []) e e') :
    (∃ error failed failed', Alike (explicit settings before after []) failed failed' ∧
      act link notify .cancel e = (.failed error, failed) ∧
      act link notify' .cancel e' = (.failed error, failed')) ∨
    ∃ canceled canceled', Alike (explicit settings before after []) canceled canceled' ∧
      act link notify .cancel e =
        (.done, (close link canceled).observe (.acted .cancel .done)) ∧
      act link notify' .cancel e' = (.done, canceled'.observe (.acted .cancel .done)) := by
  obtain ⟨error, _, _, failed, came, came'⟩ | ⟨_, _, canceled, came, came'⟩ :=
    alike.cancel tells link
  · have unclosing : ¬(Action.cancel = .cancel ∧ Reply.failed error = .done) := by simp
    refine .inl ⟨error, _, _, failed.recordActed unclosing, ?_, ?_⟩
    · simp only [act, came, replyOf]
    · simp only [act, came', replyOf]
  · obtain ⟨closes, lasts⟩ := canceled.autoClose_eq auto link
    refine .inr ⟨_, _, canceled, ?_, ?_⟩
    · simp only [act, came, replyOf, closes]
    · simp only [act, came', replyOf, lasts]

/-- A callback that closes after its cancels does the same as one whose cancels close. -/
theorem explicit_responsive (auto : settings.autoClose = true) :
    Responsive (explicit settings before after []) link := by
  intro notify notify' tells reaction e e' alike
  -- On the reaction; only after a cancel that is done has the other one more to do.
  induction reaction generalizing e e' with
  | done => exact alike
  | act action next following =>
    change Alike _ _ (react link notify' (Reaction.act action next).closing e')
    by_cases canceled : action = .cancel
    · subst canceled
      obtain ⟨error, _, _, failed, came, came'⟩ | ⟨_, _, canceled, came, came'⟩ :=
        act_cancel link tells auto alike
      · simp only [Reaction.closing, react, came, came', reduceCtorEq, and_false, if_false]
        exact following _ failed
      · simp only [Reaction.closing, react, came, came', and_self, if_true]
        exact following _ (canceled.recordCanceled.close link).recordClosed
    · have acted := alike.act link notify notify' canceled fun same =>
        same.recordActed fun done => canceled done.1
      simp only [Reaction.closing, react, canceled, false_and, if_false]
      generalize act link notify action e = result at acted
      generalize act link notify' action e' = result' at acted
      obtain ⟨reply, alike⟩ := acted
      exact following reply alike

end Callbacks

/-! ## Operations side by side -/

/-- A limit that is given without having been reached was recorded. -/
theorem concludes_of_decided (link : Link)
    (decided : (e.isOpen && e.handle.stillWaiting) = false) :
    concludes .wait (.outcome (waitResult link e).1) e = true := by
  rw [waitResult_of_decided link decided]
  cases recorded : e.handle.error with
  | none => rfl
  | some error => cases error <;> simp [concludes, recorded]

theorem not_concludes_of_waiting (waiting : (e.isOpen && e.handle.stillWaiting) = true)
    (limit : Duration) : concludes .wait (.outcome (.error (.timeout limit))) e = false := by
  simp only [Handle.stillWaiting, Bool.and_eq_true, Option.isNone_iff_eq_none] at waiting
  simp [concludes, waiting.2.1]

theorem not_concludes_of_other {operation : Operation}
    (other : operation ≠ .wait ∧ operation ≠ .cancel) (answer : Answer) :
    concludes operation answer e = false := by
  unfold concludes
  split
  · exact absurd rfl other.1
  · exact absurd rfl other.1
  · exact absurd rfl other.2
  · rfl

/-- The state after an operation, and after a close where the operation concluded a recognition. -/
def concluded (link : Link) (operation : Operation) (e : Engine) (result : Answer × Engine) :
    Engine :=
  if concludes operation result.1 e then close link result.2 else result.2

/-- What one does in an operation the other one does in the operation and the close after it. -/
def AgreeClosed (link : Link) (operation : Operation) (settings : Settings)
    (before after : List Observation) (e' : Engine) (result result' : Answer × Engine) : Prop :=
  result'.1 = result.1 ∧
    Alike (explicit settings before after []) result.2 (concluded link operation e' result')

section Steps

variable (auto : settings.autoClose = true)
  (alike : Alike (explicit settings before after []) e e')
include auto alike

theorem wait_explicit (link : Link) : AgreeClosed link .wait settings before after e'
    (.outcome (waitResult link e).1, (waitResult link e).2)
    (.outcome (waitResult link e').1, (waitResult link e').2) := by
  have same : (e'.isOpen && e'.handle.stillWaiting) = (e.isOpen && e.handle.stillWaiting) := by
    rw [alike.isOpen, alike.handle]
  obtain ⟨came, came', waiting⟩ | ⟨outcome, _, _, taken, came, came', decided⟩ :=
    alike.waitResult link
  · -- In vain: neither has anything to close.
    have goesOn := not_concludes_of_waiting (same.trans waiting) e.settings.maxWait
    rw [came, came']
    refine ⟨rfl, ?_⟩
    rw [concluded, if_neg (Bool.eq_false_iff.mp goesOn)]
    exact alike
  · -- The outcome was taken before either closes, so the close cannot lose it.
    have concludes := concludes_of_decided link (same.trans decided)
    obtain ⟨closes, lasts⟩ := taken.autoClose_eq auto link
    rw [came, came', closes, lasts]
    rw [came'] at concludes
    refine ⟨rfl, ?_⟩
    rw [concluded, if_pos concludes]
    exact taken.close link

theorem cancel_explicit (link : Link) {notify notify' : Notify}
    (tells : Tells (explicit settings before after []) notify notify') :
    AgreeClosed link .cancel settings before after e'
      (.reply (replyOf (cancel link notify e).1), (cancel link notify e).2)
      (.reply (replyOf (cancel link notify' e').1), (cancel link notify' e').2) := by
  obtain ⟨error, _, _, failed, came, came'⟩ | ⟨_, _, canceled, came, came'⟩ :=
    alike.cancel tells link
  · rw [came, came']
    exact ⟨rfl, failed⟩
  · obtain ⟨closes, lasts⟩ := canceled.autoClose_eq auto link
    rw [came, came', closes, lasts]
    exact ⟨rfl, canceled.close link⟩

theorem step_explicit (depth : Nat) (outside : Outside) (operation : Operation) :
    AgreeClosed outside.toLink operation settings before after e' (e.step depth outside operation)
      (e'.step depth (outside.mapReactions .closing) operation) := by
  have responsive : Responsive (explicit settings before after []) outside.toLink :=
    explicit_responsive outside.toLink auto
  by_cases waited : operation = .wait
  · subst waited
    exact wait_explicit auto alike outside.toLink
  · by_cases canceled : operation = .cancel
    · subst canceled
      exact cancel_explicit auto alike outside.toLink (Alike.notifyAll responsive depth)
    · have agreed : Agree (explicit settings before after []) (e.step depth outside operation)
          (e'.step depth (outside.mapReactions .closing) operation) :=
        alike.step responsive depth ⟨waited, canceled⟩ fun _ => alike.subscribed
      refine ⟨agreed.fst, ?_⟩
      rw [concluded, not_concludes_of_other ⟨waited, canceled⟩]
      exact agreed.snd

theorem run_explicit (depth : Nat) (operations : List (Outside × Operation)) :
    let script := interpose depth operations e'
    Alike (explicit settings before after []) (run depth operations e).2
        (run depth script.all e').2 ∧
      answersTo (fun line => !line.inserted) script (run depth script.all e').1 =
        (run depth operations e).1 := by
  -- On the operations: after each, and after the close where there is one, they are alike again.
  induction operations generalizing e e' with
  | nil => exact ⟨alike, rfl⟩
  | cons line rest following =>
    obtain ⟨outside, operation⟩ := line
    obtain ⟨answer, later⟩ := step_explicit auto alike depth outside operation
    obtain ⟨state, answers⟩ := following later
    unfold concluded at state answers
    simp only [interpose]
    split
    next concludes =>
      rw [if_pos concludes] at state answers
      simp only [Script.all_cons, run, answersTo_cons, Bool.not_false, Bool.not_true, if_true,
        Bool.false_eq_true, if_false]
      exact ⟨state, congrArg₂ List.cons answer answers⟩
    next goesOn =>
      rw [if_neg goesOn] at state answers
      simp only [Script.all_cons, run, answersTo_cons, Bool.not_false, if_true]
      exact ⟨state, congrArg₂ List.cons answer answers⟩

end Steps

theorem original_interpose (depth : Nat) (operations : List (Outside × Operation)) (e : Engine) :
    (interpose depth operations e).original =
      operations.map fun line => (line.1.mapReactions .closing, line.2) := by
  induction operations generalizing e with
  | nil => rfl
  | cons line rest following =>
    simp only [interpose]
    split
    · simpa [Script.original, Script.all_cons] using following _
    · simpa [Script.original, Script.all_cons] using following _

/-- A run of a recognizer that closes by itself is the run of the same operations on one that does
not, with a close after every wait that does not run into its limit and every cancel that succeeds,
also in callbacks.  Callers are given the same, and the same is seen: frames, the connection opened
and closed, sources closed, listeners told.  Callbacks are given the same, and something for the
closes that they ask for themselves. -/
theorem run_interposed {e : Engine} (auto : e.settings.autoClose = true) (depth : Nat)
    (operations : List (Outside × Operation)) :
    let other := e.lasting
    let script := interpose depth operations other
    let result := run depth operations e
    let result' := run depth script.all other
    script.original = operations.map (fun line => (line.1.mapReactions .closing, line.2)) ∧
      answersTo (fun line => !line.inserted) script result'.1 = result.1 ∧
      outward (result'.2.seenSince other) = outward (result.2.seenSince e) ∧
      replies (result'.2.seenSince other) = (replies (result.2.seenSince e)).flatMap withClose := by
  intro other script result result'
  have alike : Alike (explicit e.settings e.trace e.trace []) e other :=
    ⟨e.trace, rfl, [], [], (List.append_nil _).symm, (List.append_nil _).symm, .nil⟩
  obtain ⟨later, answers⟩ := run_explicit auto alike depth operations
  obtain ⟨more, further, own, seen, same⟩ := later.traces
  have ownSince : result.2.seenSince e = more := by
    change result.2.trace.drop _ = _
    rw [own, List.drop_left]
  have otherSince : result'.2.seenSince other = further := by
    change result'.2.trace.drop e.trace.length = _
    rw [seen, List.drop_left]
  refine ⟨original_interpose depth operations other, answers, ?_, ?_⟩
  · rw [ownSince, otherSince, same.outward]
  · rw [ownSince, otherSince, same.replies, List.append_nil]

/-- A wait in vain, one that takes a failure, and a cancel inside a callback that is told of it. -/
theorem run_interposed_after_failure :
    let first : Engine := { sample with settings := { autoClose := true } }
    let outside : Outside :=
      { Link.reliable with
        reaction := fun _ n => match n with
          | .error _ => .act .cancel fun _ => .done
          | _ => .done }
    let failure := utf8 ("ASR 2.4 RESPONSE\r\nMethod: CREATE_SESSION\r\nResult: FAILURE\r\n" ++
      "Session-Status: IDLE\r\n\r\n")
    let operations := [.recognize 0 (.ofUri "builtin:slm"), .wait, .message failure, .wait].map
      fun operation => (outside, operation)
    let script := interpose 1 operations first.lasting
    first.settings.autoClose = true ∧
      script.map (fun line => (line.inserted, line.operation == .close)) =
        [(false, false), (false, false), (false, false), (false, false), (true, true)] ∧
      outward ((run 1 script.all first.lasting).2.seenSince first.lasting) =
        outward ((run 1 operations first).2.seenSince first) ∧
      replies ((run 1 script.all first.lasting).2.seenSince first.lasting) =
        [(.cancel, .done), (.close, .done)] := by
  intro first outside failure operations script
  have auto : first.settings.autoClose = true := rfl
  obtain ⟨-, -, same, told⟩ := run_interposed auto 1 operations
  have own : replies ((run 1 operations first).2.seenSince first) = [(.cancel, .done)] := by
    decide +kernel
  refine ⟨auto, by decide +kernel, same, ?_⟩
  rw [told, own]
  rfl

end Engine

end SpeechClient
