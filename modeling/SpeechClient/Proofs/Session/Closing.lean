import SpeechClient.Proofs.Session.Outcome
import SpeechClient.Proofs.Session.Threads

/-!
# What a close leaves

A close forgets the recognition, and a wait after it gives no results.  Only an outcome that is
recorded later can change that: one that a message after the close brings, one of a recognition that
is accepted after it, or that of a cancel that was refused.  A close from inside a callback comes in
the middle of an operation, and what that operation has told the listeners is recorded at its end.

- `Entry.closes`, `Entry.closesAtRest`: a close has come to its end.
- `Engine.Clear`: nothing is there that a wait could give.
- `Engine.waitResult_of_closed`: what a wait gives after a close.
-/

namespace SpeechClient

open Wire

namespace Entry

/-- A close that the caller asked for has come to its end; the settings can make it the last part of
a cancel or of a wait. -/
def closesAtRest (autoClose : Bool) : Entry → Bool
  | ended .close _ => true
  | ended .cancel (.reply .done) | taken => autoClose
  | _ => false

/-- A close has come to its end, also one from inside a callback. -/
def closes (autoClose : Bool) : Entry → Bool
  | seen _ (.acted .close _) => true
  | seen _ (.acted .cancel .done) => autoClose
  | entry => entry.closesAtRest autoClose

theorem closes_of_closesAtRest {entry : Entry} {autoClose : Bool}
    (closed : entry.closesAtRest autoClose = true) : entry.closes autoClose = true := by
  unfold closes
  split
  · rfl
  · cases closed
  · exact closed

theorem closes_ended_cancel {answer : Answer} {autoClose : Bool} :
    (ended .cancel answer).closes autoClose = true ↔ answer = .reply .done ∧ autoClose = true := by
  cases answer with
  | reply reply => cases reply <;> simp [closes, closesAtRest]
  | _ => simp [closes, closesAtRest]

/-- The server could not be asked for a cancel, which is a failure to record. -/
def refusesCancel : Entry → Bool
  | seen _ (.sendFailed frame) => frame = Request.cancelRecognition
  | _ => false

/-- Something may be recorded for a wait after this. -/
def revives : Entry → Bool
  | began (.message _) => true
  | entry => entry.accepts || entry.refusesCancel

theorem not_accepts_of_not_revives {entry : Entry} (quiet : entry.revives = false) :
    entry.accepts = false := by
  unfold revives at quiet
  split at quiet
  · cases quiet
  · exact (Bool.or_eq_false_iff.mp quiet).1

/-- Listeners hear of a result or a failure to record.  What keeps a recognition from starting is
told, but not recorded. -/
def reports : Entry → Bool
  | seen (.recognize _ _) (.notified _ _) => false
  | seen _ (.notified _ (.result _)) | seen _ (.notified _ (.error _)) => true
  | _ => false

end Entry

namespace Handle

/-- Nothing is there that a wait could give, or wait for. -/
structure Blank (h : Handle) : Prop where
  results : h.results = []
  error : h.error = none
  idle : h.recognizing = false

/-- Nothing is there that a wait could give, and only a recognition on its way can run. -/
structure Clear (operation : Operation) (h : Handle) : Prop where
  results : h.results = []
  error : h.error = none
  running : h.recognizing = true → ∃ source model, operation = .recognize source model

variable {operation : Operation} {h h' : Handle}

theorem Blank.of_forgotten (forgotten : h = {}) : h.Blank := by
  subst forgotten
  exact ⟨rfl, rfl, rfl⟩

theorem Blank.clear (blank : h.Blank) : h.Clear operation := by
  refine ⟨blank.results, blank.error, fun running => ?_⟩
  rw [blank.idle] at running
  cases running

theorem Clear.congr (clear : h.Clear operation) (results : h'.results = h.results)
    (error : h'.error = h.error) (running : h'.recognizing = h.recognizing) :
    h'.Clear operation :=
  ⟨results.trans clear.results, error.trans clear.error, fun runs => clear.running (running ▸ runs)⟩

end Handle

namespace Engine

variable {ep : Episode} {e e' : Engine}

theorem waitResult_of_blank (blank : e.handle.Blank) (link : Link) :
    (waitResult link e).1 = .ok [] := by
  have decided : (e.isOpen && e.handle.stillWaiting) = false := by
    simp [Handle.stillWaiting, blank.idle]
  rw [waitResult_fst link decided, blank.error, blank.results]

/-- Only recorded results and failures give a wait something to give. -/
theorem Move.clear (move : Move ep e e') (harmless : ∀ outcome, Records ep e outcome →
    Announced ep e outcome → ∃ discard, outcome = .finish discard)
    (clear : e.handle.Clear ep.operation) : e'.handle.Clear ep.operation := by
  cases move with
  | stopped =>
    rw [stopStreamer_handle]
    exact clear.congr rfl rfl rfl
  | forgotten =>
    rw [forget_handle]
    exact Handle.Blank.clear ⟨rfl, rfl, rfl⟩
  | recorded records announced =>
    obtain ⟨discard, rfl⟩ := harmless _ records announced
    cases discard with
    | false => exact Handle.Blank.clear ⟨clear.results, clear.error, rfl⟩
    | true => exact Handle.Blank.clear ⟨rfl, clear.error, rfl⟩
  | begun asked => exact ⟨rfl, rfl, fun _ => ⟨_, _, asked⟩⟩
  | abandoned => exact Handle.Blank.clear ⟨clear.results, clear.error, rfl⟩
  | @dispatched link event =>
    obtain ⟨_, _, _, handle⟩ := dispatch_fields link event ep.start
    rw [handle]
    exact clear.congr rfl rfl rfl
  | given =>
    rw [giveOutcome_handle]
    exact Handle.Blank.clear ⟨rfl, rfl, rfl⟩
  | _ => exact clear.congr rfl rfl rfl

/-! ## Operations -/

theorem Observes.forgotten {o : Observation} (observes : Observes ep e o) {during : Operation}
    (closes : (Entry.seen during o).closes e.settings.autoClose = true) : e.handle = {} := by
  cases observes with
  | @acted action reply completed =>
    cases action with
    | close => exact completed.1
    | cancel =>
      cases reply with
      | done => exact (completed.2 closes).1
      | failed error => cases closes
      | status state isOpen => cases closes
    | startTimers => cases closes
    | status => cases closes
  | _ => cases closes

theorem not_closes_of_mem_opening {entry : Entry} (member : entry ∈ ep.opening)
    (autoClose : Bool) : entry.closes autoClose = false := by
  rw [Episode.began_of_mem_opening member]
  rfl

/-- A close on the way leaves nothing, and nothing comes back as long as no result and no failure is
recorded. -/
theorem Moves.clear (moves : Moves ep ep.start e) (quiet : Entry → Prop) (closed : Prop)
    (harmless : ∀ {a outcome}, Moves ep ep.start a → (∀ entry ∈ ep.upTo a, quiet entry) →
      Records ep a outcome → Announced ep a outcome → ∃ discard, outcome = .finish discard)
    (before : closed → ep.start.handle.Clear ep.operation)
    (quietly : ∀ entry ∈ ep.upTo e, quiet entry)
    (shut : closed ∨ ∃ entry ∈ ep.upTo e, entry.closes ep.start.settings.autoClose = true) :
    e.handle.Clear ep.operation := by
  revert quietly shut
  refine moves.keepOn (P := fun a => (∀ entry ∈ ep.upTo a, quiet entry) →
    (closed ∨ ∃ entry ∈ ep.upTo a, entry.closes ep.start.settings.autoClose = true) →
    a.handle.Clear ep.operation) ?_ ?_
  · rintro a b earlier move clear quietly shut
    have quietly : ∀ entry ∈ ep.upTo a, quiet entry := fun entry member =>
      quietly entry (Episode.mem_upTo_of_grown move.grows member)
    by_cases shutBefore : closed ∨ ∃ entry ∈ ep.upTo a,
        entry.closes ep.start.settings.autoClose = true
    · exact move.clear (fun _ => harmless earlier quietly) (clear quietly shutBefore)
    obtain closed | ⟨entry, member, closes⟩ := shut
    · exact absurd (.inl closed) shutBefore
    -- The close has just ended, so it has left nothing.
    have new : entry ∉ ep.upTo a := fun member => shutBefore (.inr ⟨entry, member, closes⟩)
    obtain ⟨o, observes, rfl, seen⟩ | ⟨sources, seen⟩ := Episode.upTo_of_move earlier move
    · rw [seen, List.mem_append] at member
      obtain rfl := List.mem_singleton.mp (member.resolve_left new)
      rw [← earlier.same.1] at closes
      exact (Handle.Blank.of_forgotten (observes.forgotten closes)).clear
    · rw [seen, List.mem_append] at member
      obtain ⟨source, -, rfl⟩ := List.mem_map.mp (member.resolve_left new)
      cases closes
  · rintro - (closed | ⟨entry, member, closes⟩)
    · exact before closed
    · rw [Episode.upTo_start] at member
      rw [not_closes_of_mem_opening member] at closes
      cases closes

/-- A close that an operation ends with leaves nothing. -/
theorem step_closed (depth : Nat) (outside : Outside) (operation : Operation) (e : Engine)
    {entry : Entry} (member : entry ∈ (e.episode depth outside operation).ending)
    (closes : entry.closes e.settings.autoClose = true) :
    (e.step depth outside operation).2.handle = {} := by
  obtain rfl | ⟨rfl, waited, decided⟩ := Episode.ended_or_taken_of_mem_ending member
  · cases operation with
    | close => exact close_handle outside.toLink e
    | cancel =>
      obtain ⟨done, auto⟩ := Entry.closes_ended_cancel.mp closes
      rw [← (step_moves depth outside .cancel e).same.1] at auto
      exact ((step_cancel_completes done).2 auto).1
    | _ => cases closes
  · have waited : operation = .wait := waited
    subst waited
    have face := waitResult_face outside.toLink e decided
    have auto : e.settings.autoClose = true := closes
    rw [if_pos auto] at face
    exact congrArg Face.handle face

/-- A recognition that was not accepted does not run. -/
theorem step_blank (depth : Nat) (outside : Outside) {operation : Operation} {e : Engine}
    (clear : (e.step depth outside operation).2.handle.Clear operation)
    (refused : ∀ entry ∈ (e.episode depth outside operation).ending, entry.accepts = false)
    (before : (e.step depth outside operation).2 = e → e.handle.Blank) :
    (e.step depth outside operation).2.handle.Blank := by
  refine ⟨clear.results, clear.error, Bool.eq_false_iff.mpr fun running => ?_⟩
  obtain ⟨source, model, rfl⟩ := clear.running running
  have ended : Entry.accepts (.ended (.recognize source model)
      (e.step depth outside (.recognize source model)).1) = false :=
    refused _ (Episode.ended_mem_ending _)
  obtain ⟨-, same⟩ | ⟨-, ⟨accepted, -⟩ | ⟨-, idle⟩⟩ :=
    recognize_cases depth outside source model e
  · have idle := (before same).idle
    rw [← same] at idle
    exact absurd running (Bool.eq_false_iff.mp idle)
  · rw [accepted] at ended
    cases ended
  · exact absurd running (Bool.eq_false_iff.mp idle)

section Quiet

variable {depth : Nat} {outside : Outside} {operation : Operation}

/-- An operation without news leaves a blank handle blank. -/
theorem step_blank_of_quiet (blank : e.handle.Blank) (still : e.threads = [])
    (quiet : ∀ entry ∈ e.entries depth outside operation, entry.revives = false) :
    (e.step depth outside operation).2.handle.Blank ∧
      (e.step depth outside operation).2.threads = [] := by
  let ep := e.episode depth outside operation
  have moves : Moves ep ep.start (e.step depth outside operation).2 :=
    episode_moves depth outside operation e
  have unbrought : ep.event? = none := by
    refine Episode.event?_eq_none fun octets began => ?_
    have revives := quiet _ (List.mem_append_left _ (List.mem_append_left _ began))
    cases revives
  have threads : (e.step depth outside operation).2.threads = [] :=
    List.subset_nil.mp (still ▸ moves.threads unbrought)
  have clear : (e.step depth outside operation).2.handle.Clear operation := by
    refine moves.clear (fun entry => entry.revives = false) True ?_
      (fun _ => blank.clear) (fun entry member => quiet entry (List.mem_append_left _ member))
      (.inl trivial)
    intro a outcome _ quietly records _
    cases records with
    | canceled => exact ⟨true, rfl⟩
    | cancelRefused error refused =>
      have revives := quietly _ (Episode.seen_mem_upTo refused)
      simp [Entry.revives, Entry.refusesCancel] at revives
    | brought _ brought =>
      rw [unbrought] at brought
      cases brought
    | lost _ running =>
      have idle : ep.start.handle.recognizing = false := blank.idle
      rw [idle] at running
      cases running
    | streamFailed _ _ running =>
      have still : ep.start.threads = [] := still
      rw [still] at running
      cases running
  refine ⟨step_blank depth outside clear (fun entry member => ?_) fun _ => blank, threads⟩
  exact Entry.not_accepts_of_not_revives (quiet entry (List.mem_append_right _ member))

/-- Results and failures are told before they are recorded. -/
theorem harmless_of_unreported {a : Engine} {outcome : Commit} (listening : 0 < a.listeners)
    (unreported : ∀ entry ∈ ep.upTo a, entry.reports = false ∧ entry.refusesCancel = false)
    (records : Records ep a outcome) (announced : Announced ep a outcome) :
    ∃ discard, outcome = .finish discard := by
  have heard {n : Notification} (told : a.Heard ep.start n) :
      (Entry.seen ep.operation (.notified 0 n)).reports = false :=
    (unreported _ (Episode.seen_mem_upTo (told 0 listening))).1
  cases records with
  | canceled => exact ⟨true, rfl⟩
  | cancelRefused error refused =>
    have kept := (unreported _ (Episode.seen_mem_upTo refused)).2
    simp [Entry.refusesCancel] at kept
  | brought _ brought =>
    obtain ⟨⟨octets, asked⟩, -⟩ := Episode.opening_of_event? brought
    rw [asked] at heard
    cases outcome with
    | result result last => exact absurd (heard announced) (by simp [Entry.reports])
    | fail error => exact absurd (heard announced) (by simp [Entry.reports])
    | finish discard => exact ⟨discard, rfl⟩
  | lost asked =>
    rw [asked] at heard
    exact absurd (heard announced) (by simp [Entry.reports])
  | streamFailed error asked =>
    rw [asked] at heard
    exact absurd (heard announced) (by simp [Entry.reports])

/-- An operation that reports nothing leaves a blank handle, if there was a close before it or there
is one on the way. -/
theorem step_blank_of_unreported (closed : Prop) (listening : 0 < e.listeners)
    (before : closed → e.handle.Blank)
    (shut : closed ∨ ∃ entry ∈ (e.episode depth outside operation).upTo
      (e.step depth outside operation).2, entry.closes e.settings.autoClose = true)
    (unreported : ∀ entry ∈ e.entries depth outside operation,
      entry.reports = false ∧ entry.refusesCancel = false)
    (refused : ∀ entry ∈ (e.episode depth outside operation).ending, entry.accepts = false) :
    (e.step depth outside operation).2.handle.Blank := by
  let ep := e.episode depth outside operation
  have moves : Moves ep ep.start (e.step depth outside operation).2 :=
    episode_moves depth outside operation e
  have clear : (e.step depth outside operation).2.handle.Clear operation := by
    refine moves.clear (fun entry => entry.reports = false ∧ entry.refusesCancel = false) closed ?_
      (fun closed => (before closed).clear)
      (fun entry member => unreported entry (List.mem_append_left _ member)) shut
    intro a outcome earlier quietly records announced
    have listening : 0 < a.listeners := earlier.same.2 ▸ listening
    exact harmless_of_unreported listening quietly records announced
  refine step_blank depth outside clear refused fun same => ?_
  obtain closed | ⟨entry, member, closes⟩ := shut
  · exact before closed
  · have member : entry ∈ ep.opening := by
      rw [same] at member
      exact Episode.upTo_start ep ▸ member
    rw [not_closes_of_mem_opening member] at closes
    cases closes

end Quiet

/-! ## Runs -/

variable {first : Engine} {log : Chronicle}

/-- After a close that the caller asked for all stays blank, and no thread runs, until a message
comes, a recognition is accepted or a cancel is refused. -/
theorem Chronicled.blank_of_closed (run : Chronicled first e log) (reached : first.Reachable)
    (closed : log.Since (Entry.closesAtRest first.settings.autoClose) Entry.revives) :
    e.handle.Blank ∧ e.threads = [] := by
  induction run with
  | start => exact absurd closed Chronicle.not_since_nil
  | attach source _ before => exact before closed
  | @step e log depth outside operation run before =>
    by_cases closing : ∃ entry ∈ e.entries depth outside operation,
      entry.closesAtRest first.settings.autoClose = true
    · obtain ⟨entry, member, closes⟩ := closing
      have member : entry ∈ (e.episode depth outside operation).ending := by
        cases List.mem_append.mp member with
        | inl member =>
          obtain rfl | ⟨o, -, rfl⟩ := Episode.began_or_seen_of_mem_upTo member
          · cases closes
          · cases closes
        | inr member => exact member
      rw [← run.same.1] at closes
      have forgotten := step_closed depth outside operation e member
        (Entry.closes_of_closesAtRest closes)
      have held := ((run.reachable reached).step depth outside operation).held
      exact ⟨.of_forgotten forgotten, held.threads_eq_nil (congrArg Handle.streamer forgotten)⟩
    · have lasting : ∀ entry ∈ e.entries depth outside operation,
          entry.closesAtRest first.settings.autoClose = false :=
        fun entry member => Bool.eq_false_iff.mpr fun closes => closing ⟨entry, member, closes⟩
      obtain ⟨closed, quiet⟩ := closed.of_append lasting
      obtain ⟨blank, still⟩ := before closed
      exact step_blank_of_quiet blank still quiet

/-- After a close all is blank until a recognition is accepted, as long as listeners hear of no
outcome, before the close or after it. -/
theorem Chronicled.blank_of_unreported (run : Chronicled first e log)
    (listening : 0 < first.listeners)
    (closed : log.Since (Entry.closes first.settings.autoClose) Entry.accepts)
    (unreported : ∀ entry ∈ log, entry.reports = false ∧ entry.refusesCancel = false) :
    e.handle.Blank := by
  induction run with
  | start => exact absurd closed Chronicle.not_since_nil
  | attach source _ before => exact before closed unreported
  | @step e log depth outside operation run before =>
    let ep := e.episode depth outside operation
    let e' := (e.step depth outside operation).2
    have settings := run.same.1
    have listening' : 0 < e.listeners := run.same.2 ▸ listening
    by_cases closing : ∃ entry ∈ ep.ending, entry.closes e.settings.autoClose = true
    · obtain ⟨entry, member, closes⟩ := closing
      exact .of_forgotten (step_closed depth outside operation e member closes)
    · rw [entries, ← List.append_assoc] at closed
      obtain ⟨closed, refused⟩ := closed.of_append fun entry member =>
        Bool.eq_false_iff.mpr fun closes => closing ⟨entry, member, settings ▸ closes⟩
      refine step_blank_of_unreported (log.Since _ _) listening'
        (fun closed => before closed fun entry member =>
          unreported entry (List.mem_append_left _ member)) ?_
        (fun entry member => unreported entry (List.mem_append_right _ member)) refused
      by_cases shut : ∃ entry ∈ ep.upTo e', entry.closes e.settings.autoClose = true
      · exact .inr shut
      · refine .inl (closed.of_append fun entry member => ?_).1
        exact Bool.eq_false_iff.mpr fun closes => shut ⟨entry, member, settings ▸ closes⟩

/-- A wait after a close gives no results, if the caller asked for the close and since then no
message came, no recognition was accepted and no cancel was refused.  After a close from inside a
callback it gives no results either, as long as listeners hear of no outcome; what the operation
told them before the close is recorded when the operation ends.  The run may begin anywhere, say
with the operation of the close, and what listeners heard earlier does not matter. -/
theorem waitResult_of_closed (reached : first.Reachable) (run : Chronicled first e log)
    (link : Link) :
    (log.Since (Entry.closesAtRest first.settings.autoClose) Entry.revives →
      (waitResult link e).1 = .ok []) ∧
    (0 < first.listeners →
      log.Since (Entry.closes first.settings.autoClose) Entry.accepts →
      (∀ entry ∈ log, entry.reports = false ∧ entry.refusesCancel = false) →
      (waitResult link e).1 = .ok []) := by
  constructor
  · intro closed
    exact waitResult_of_blank (run.blank_of_closed reached closed).1 link
  · intro listening closed unreported
    exact waitResult_of_blank (run.blank_of_unreported listening closed unreported) link

/-- A listener closes as soon as the server listens, and the caller closes once more. -/
theorem waitResult_of_closed_while_listening :
    let outside : Outside :=
      { Link.reliable with
        reaction := fun _ n => if n = .listening then .ofAction .close else .done }
    let message := Operation.message
      (utf8 "ASR 2.4 RESPONSE\r\nMethod: START_RECOGNITION\r\nResult: SUCCESS\r\n\r\n")
    let begun := (sample.step 1 outside (.recognize 0 (.ofUri "builtin:slm"))).2
    let closed := (begun.step 1 outside message).2
    let again := (closed.step 1 outside .close).2
    .acted .close .done ∈ closed.trace ∧ (waitResult Link.reliable closed).1 = .ok [] ∧
      (waitResult Link.reliable again).1 = .ok [] := by
  intro outside message begun closed again
  have started : Chronicled sample begun _ := Chronicled.start.step 1 outside _
  have shut : Chronicled sample closed _ := started.step 1 outside message
  have run : Chronicled sample again _ := shut.step 1 outside .close
  have reached : sample.Reachable := .new sample_new
  refine ⟨by decide +kernel, ?_, ?_⟩
  · exact (waitResult_of_closed reached shut Link.reliable).2 (by decide) (by decide +kernel)
      (by decide +kernel)
  · exact (waitResult_of_closed reached run Link.reliable).1 (by decide +kernel)

/-- A listener closes when it hears of the result, and the wait gives that result. -/
theorem waitResult_of_closed_in_result :
    let outside : Outside :=
      { Link.reliable with
        reaction := fun _ n => if n = .listening then .done else .ofAction .close }
    let message := Operation.message
      (utf8 "ASR 2.4 RECOGNITION_RESULT\r\nResult-Status: NO_SPEECH\r\n\r\n")
    let begun := (sample.step 1 outside (.recognize 0 (.ofUri "builtin:slm"))).2
    let closed := (begun.step 1 outside message).2
    (∃ log, Chronicled sample closed log ∧
      log.Since (Entry.closes sample.settings.autoClose) Entry.revives) ∧
    (waitResult Link.reliable closed).1 = .ok [.ofStatus "NO_SPEECH"] := by
  intro outside message begun closed
  have shut : Chronicled sample closed _ :=
    (Chronicled.start.step 1 outside _).step 1 outside message
  refine ⟨⟨_, shut, by decide +kernel⟩, ?_⟩
  have error : closed.handle.error = none := by decide +kernel
  have results : closed.handle.results = [.ofStatus "NO_SPEECH"] := by decide +kernel
  rw [waitResult_fst Link.reliable (by decide +kernel), error, results]

end Engine

end SpeechClient
