import SpeechClient.Proofs.Session.CancelReply
import SpeechClient.Proofs.Session.Guard

/-!
# How a recognition begins

A request to recognize is turned away before anything is done, or the recognition begins and its
first frame is sent.  Where that fails the beginning is taken back, and the error and the news of it
are all that is left.

- `Engine.sendFirst_of_unconnected`, `sendFirst_of_connected`: what sending the first frame does.
- `Engine.Undone`: a beginning that was taken back.
- `Engine.step_recognize`: the four ways a request to recognize can go.
-/

namespace SpeechClient

open Wire

namespace Engine

variable {link : Link} {outside : Outside} {e : Engine} {error : RecognitionError}

def hearings (e : Engine) (n : Notification) : List Observation :=
  (List.range e.listeners).map (.notified · n)

def openings (e : Engine) : List Observation :=
  if e.isOpen then [] else [.opened e.endpoint]

def connect (e : Engine) : Engine :=
  if e.isOpen then e
  else { e.observe (.opened e.endpoint) with isOpen := true, subscribed := true }

theorem connect_isOpen (e : Engine) : e.connect.isOpen = true := by
  unfold connect
  split
  next isOpen => exact isOpen
  · rfl

theorem connect_trace (e : Engine) : e.connect.trace = e.trace ++ e.openings := by
  unfold connect openings
  split
  · exact (List.append_nil _).symm
  · rfl

theorem connect_request (e : Engine) : firstRequest e.connect = firstRequest e := by
  unfold connect
  split <;> rfl

theorem foldl_observe (e : Engine) (n : Notification) (told : List Nat) :
    told.foldl (fun e i => e.observe (.notified i n)) e =
      { e with trace := e.trace ++ told.map (.notified · n) } := by
  induction told generalizing e with
  | nil => simp
  | cons i rest after =>
    rw [List.foldl_cons, after]
    simp [observe]

theorem notifyAll_of_observing (observing : ∀ i n, outside.reaction i n = .done) (depth : Nat)
    (n : Notification) (e : Engine) :
    notifyAll outside depth n e = { e with trace := e.trace ++ e.hearings n } := by
  cases depth with
  | zero => exact foldl_observe e n _
  | succ depth =>
    simp only [notifyAll, observing, react]
    exact foldl_observe e n _

/-! ## The first frame -/

theorem openFailure_cases (link : Link) (e : Engine) :
    (∃ error, openFailure link e = some error ∧
      openConnection link e = (some error, e.observe (.opened e.endpoint))) ∨
    openFailure link e = none ∧ openConnection link e = (none, e.connect) := by
  unfold openFailure openConnection connect
  cases e.isOpen with
  | true => exact .inr ⟨rfl, rfl⟩
  | false =>
    have endpoint : (e.observe (.opened e.endpoint)).endpoint = e.endpoint := rfl
    simp only [Bool.false_eq_true, if_false, endpoint]
    cases link.refuseOpen e.endpoint with
    | some refusal => exact .inl ⟨_, rfl, rfl⟩
    | none => exact .inr ⟨rfl, rfl⟩

theorem sendFirst_of_unconnected (refused : openFailure link e = some error) :
    sendFirst link e = (some error, e.observe (.opened e.endpoint)) := by
  obtain ⟨_, same, opened⟩ | ⟨connected, -⟩ := openFailure_cases link e
  · obtain rfl := Option.some.inj (refused.symm.trans same)
    simp only [sendFirst, opened]
  · rw [refused] at connected
    cases connected

theorem sendFirst_of_connected {frame : Frame} (connected : openFailure link e = none)
    (requested : firstRequest e = .ok frame) :
    sendFirst link e =
      (link.sendFailure true frame, e.connect.observe (link.attempt true frame)) := by
  obtain ⟨_, refused, -⟩ | ⟨-, opened⟩ := openFailure_cases link e
  · rw [refused] at connected
    cases connected
  · simp only [sendFirst, opened, connect_request, requested]
    exact Prod.ext (by rw [send_fst, connect_isOpen]) (by rw [send_snd, connect_isOpen])

/-- Nothing of the recognition before decides which frame is the first. -/
theorem firstRequest_begin_eq (e : Engine) (source : SourceId) (model : LanguageModel) :
    firstRequest (e.onHandle (·.begin source model)) =
      if e.handle.state = .none then .ok (Request.createSession e.settings.userAgent)
      else Request.startRecognition (some model) := by
  simp only [firstRequest, onHandle, Handle.begin]
  cases e.handle.state <;> rfl

/-! ## Beginnings that are taken back -/

/-- The recognition could not begin: the error is the answer, and every listener hears of it once,
after what else is seen.  Nobody is kept out; a wait gives nothing, and goes on to do so while no
thread runs, no message comes, no recognition is accepted and no cancel is refused; and requests are
not turned away until one is accepted. -/
structure Undone (e : Engine) (error : RecognitionError) (seen : List Observation)
    (result : Answer × Engine) : Prop where
  answer : result.1 = .reply (.failed error)
  trace : result.2.trace = e.trace ++ seen ++ e.hearings (.error error)
  unguarded : result.2.handle.active = false
  wait : ∀ depth outside, (result.2.step depth outside .wait).1 = .outcome (.ok [])
  waitLater : result.2.threads = [] → ∀ later log, Chronicled result.2 later log →
    (∀ entry ∈ log, entry.revives = false) →
    ∀ depth outside, (later.step depth outside .wait).1 = .outcome (.ok [])
  next : ∀ later log, Chronicled result.2 later log → (∀ entry ∈ log, entry.accepts = false) →
    ∀ depth outside source model, model.usable = true →
      let answer := (later.step depth outside (.recognize source model)).1
      answer = .reply .done ∨ ∃ refusal : Refusal, answer = .reply (.failed refusal.error)

theorem undone_of_unsent (depth : Nat) {source : SourceId} {model : LanguageModel}
    {reached : Engine} {seen : List Observation} (usable : model.usable = true)
    (idle : e.handle.active = false) (observing : ∀ i n, outside.reaction i n = .done)
    (unsent : sendFirst outside.toLink (e.onHandle (·.begin source model)) =
      (some error, reached))
    (trace : reached.trace = e.trace ++ seen) :
    e.Undone error seen (e.step depth outside (.recognize source model)) := by
  have face := sendFirst_face outside.toLink (e.onHandle (·.begin source model))
  rw [unsent] at face
  have begun : reached.handle = e.handle.begin source model := congrArg Face.handle face
  have listeners : reached.listeners = e.listeners := congrArg Face.listeners face
  rw [recognize_of_unsent usable idle unsent, notifyAll_of_observing observing]
  let undone := ({ reached with trace := reached.trace ++ reached.hearings (.error error) }
    : Engine).onHandle fun h => { h.finishRecognition with active := false }
  have told : undone.trace = e.trace ++ seen ++ e.hearings (.error error) := by
    rw [← trace, hearings, ← listeners]
    rfl
  -- Nothing was recorded before the recognition began.
  have blank : undone.handle.Blank :=
    ⟨congrArg Handle.results begun, congrArg Handle.error begun, rfl⟩
  refine ⟨rfl, told, rfl, ?_, ?_, ?_⟩
  · intro depth outside
    exact congrArg Answer.outcome (waitResult_of_blank blank outside.toLink)
  · intro still later log run quiet depth outside
    have blank := (run.blank_of_quiet blank still quiet).1
    exact congrArg Answer.outcome (waitResult_of_blank blank outside.toLink)
  · intro later log run unaccepted depth outside source model usable
    have idle := run.idle_of_unaccepted rfl unaccepted
    obtain ⟨accepted, -⟩ | ⟨failed, -⟩ := recognize_unguarded depth outside source usable idle
    · exact .inl accepted
    · exact .inr failed

/-- A request without anything to recognize against is turned away, and so is one while an outcome
has not been taken; nothing happens then.  Any other begins the recognition with one frame, which
asks for a session where there is none, and starts the recognition against the model otherwise.
Where the connection cannot be opened or does not take the frame, the beginning is taken back. -/
theorem step_recognize {first : Engine} {log : Chronicle} (new : first.New)
    (run : Chronicled first e log) (depth : Nat) (outside : Outside)
    (observing : ∀ i n, outside.reaction i n = .done) (source : SourceId) (model : LanguageModel) :
    let result := e.step depth outside (.recognize source model)
    let untaken := log.Since Entry.accepts (Entry.frees first.settings.autoClose)
    (model.usable = false → result = (.reply (.failed .invalidLanguageModel), e)) ∧
    (model.usable = true → untaken → result = (.reply (.failed .activeRecognition), e)) ∧
    (model.usable = true → ¬untaken → ∃ frame,
      (e.handle.state = .none → frame = Request.createSession e.settings.userAgent) ∧
      (e.handle.state ≠ .none → Request.startRecognition (some model) = .ok frame) ∧
      (∀ error, openFailure outside.toLink e = some error →
        e.Undone error [.opened e.endpoint] result) ∧
      (openFailure outside.toLink e = none →
        (∀ error, outside.sendFailure true frame = some error →
          e.Undone error (e.openings ++ [.sendFailed frame]) result) ∧
        (outside.sendFailure true frame = none → result.1 = .reply .done ∧
          result.2.handle = e.handle.begin source model ∧
          result.2.trace = e.trace ++ (e.openings ++ [.sent frame])))) := by
  intro result untaken
  -- The guard stands exactly while an outcome is untaken, so each case knows where it is.
  have guarded : e.handle.active = true ↔ untaken := run.active_iff new
  refine ⟨fun unusable => ?_, fun usable kept => ?_, fun usable free => ?_⟩
  · exact (recognize_turned_away depth outside source (.inl unusable)).trans (by rw [unusable]; rfl)
  · have active := guarded.mpr kept
    exact (recognize_turned_away depth outside source (.inr active)).trans (by rw [usable]; rfl)
  · have idle : e.handle.active = false := Bool.eq_false_iff.mpr fun active =>
      free (guarded.mp active)
    obtain ⟨frame, requested⟩ := firstRequest_begin e source usable
    have asked := (firstRequest_begin_eq e source model).symm.trans requested
    -- The recognition has begun before the connection is opened.
    let begun := e.onHandle (·.begin source model)
    have reached (connected : openFailure outside.toLink e = none) :
        sendFirst outside.toLink begun = (outside.sendFailure true frame,
          begun.connect.observe (outside.attempt true frame)) :=
      sendFirst_of_connected connected requested
    have seen : (begun.connect.observe (outside.attempt true frame)).trace =
        e.trace ++ (e.openings ++ [outside.attempt true frame]) := by
      rw [observe, connect_trace, List.append_assoc]
      rfl
    refine ⟨frame, fun unknown => ?_, fun known => ?_, fun error refused => ?_,
      fun connected => ⟨fun error refused => ?_, fun taken => ?_⟩⟩
    · rw [if_pos unknown] at asked
      exact (Except.ok.inj asked).symm
    · rwa [if_neg known] at asked
    · exact undone_of_unsent depth usable idle observing
        (sendFirst_of_unconnected (e := begun) refused) rfl
    · have attempted : outside.attempt true frame = .sendFailed frame := by
        obtain ⟨refusal, refuses, -⟩ := Option.map_eq_some_iff.mp refused
        simp only [Link.attempt, refuses]
      have unsent := reached connected
      rw [refused] at unsent
      rw [attempted] at unsent seen
      exact undone_of_unsent depth usable idle observing unsent seen
    · have attempted : outside.attempt true frame = .sent frame := by
        have takes := Option.map_eq_none_iff.mp taken
        simp only [Link.attempt, takes]
      have sent := reached connected
      rw [taken] at sent
      rw [attempted] at sent seen
      have accepted : result = _ := recognize_of_sent usable idle sent
      have begins : begun.connect.handle = e.handle.begin source model := by
        unfold connect
        split <;> rfl
      rw [accepted]
      exact ⟨rfl, begins, seen⟩

/-- A connection is refused at first and made later; while the recognition runs, two more requests
are turned away. -/
theorem step_recognize_refused_then_accepted :
    let refusing : Outside :=
      { refuseOpen := fun _ => some (.ofReason "refused"), refuseSend := fun _ _ => none }
    let reliable : Outside := { Link.reliable with }
    let refused := sample.step 0 refusing (.recognize 0 (.ofUri "builtin:slm"))
    let begun := (refused.2.step 0 reliable (.recognize 0 (.ofUri "builtin:slm"))).2
    sample.Undone (.connectionFailure "refused") [.opened sample.endpoint] refused ∧
      begun.trace = refused.2.trace ++ [.opened sample.endpoint,
        .sent (Request.createSession sample.settings.userAgent)] ∧
      begun.step 0 reliable (.recognize 1 (.ofUri "builtin:slm")) =
        (.reply (.failed .activeRecognition), begun) ∧
      begun.step 0 reliable (.recognize 1 {}) =
        (.reply (.failed .invalidLanguageModel), begun) := by
  intro refusing reliable refused begun
  have usable : (LanguageModel.ofUri "builtin:slm").usable = true := by decide +kernel
  have once : Chronicled sample refused.2 _ := Chronicled.start.step 0 refusing _
  have twice : Chronicled sample begun _ := once.step 0 reliable _
  obtain ⟨-, -, first⟩ :=
    step_recognize sample_new .start 0 refusing (fun _ _ => rfl) 0 (.ofUri "builtin:slm")
  obtain ⟨-, -, second⟩ :=
    step_recognize sample_new once 0 reliable (fun _ _ => rfl) 0 (.ofUri "builtin:slm")
  obtain ⟨-, kept, -⟩ :=
    step_recognize sample_new twice 0 reliable (fun _ _ => rfl) 1 (.ofUri "builtin:slm")
  obtain ⟨empty, -⟩ :=
    step_recognize sample_new twice 0 reliable (fun _ _ => rfl) 1 {}
  obtain ⟨-, -, -, undone, -⟩ := first usable (by decide +kernel)
  obtain ⟨frame, asks, -, -, connected⟩ := second usable (by decide +kernel)
  have asked : frame = Request.createSession refused.2.settings.userAgent :=
    asks (by decide +kernel)
  obtain ⟨-, -, trace⟩ := (connected (by decide +kernel)).2 rfl
  refine ⟨undone _ rfl, ?_, kept usable (by decide +kernel), empty (by decide +kernel)⟩
  have openings : refused.2.openings = [.opened sample.endpoint] := by decide +kernel
  have settings : refused.2.settings = sample.settings := once.same.1
  rw [asked, openings, settings] at trace
  exact trace

end Engine

end SpeechClient
