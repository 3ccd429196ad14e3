import SpeechClient.Proofs.Session.Observers
import SpeechClient.Proofs.Session.Reachable

/-!
# Records of runs

A run is recorded while it goes on: every operation adds its marks to the history.  The marks are
what can be seen from outside, and among them is all that listeners are told.

- `Engine.news`: what an operation would tell a listener.
- `Engine.marks`: what an operation adds to the history.
- `Engine.Recorded`: a state that operations lead to, with the history of these operations.
-/

namespace SpeechClient.Engine

open Wire

/-- No callback uses the recognizer while the operation lasts: neither a listener that is told
something, nor a source that is read. -/
structure Observing (outside : Outside) (operation : Operation) (e : Engine) : Prop where
  listeners : ∀ i n, outside.reaction i n = .done
  source : ∀ thread, operation = .stream thread →
    (readSource thread.source e).1.reaction = .done

def news (outside : Outside) (operation : Operation) (e : Engine) : List Notification :=
  (step 0 outside operation { e with listeners := 1, trace := [] }).2.told 0

/-- What a cancel does to the running recognition.  Without a connection nobody has to confirm
it. -/
def canceled (history : History) (e : Engine) : History :=
  if e.isOpen then [.asked] else if history.running then [.discarded] else []

def closing (e : Engine) : History :=
  if e.settings.autoClose then [.closed] else []

/-- What an operation adds to the history, seen from outside: from its answer, its news, and the
status and the connection before it. -/
def marks (history : History) (operation : Operation) (answer : Answer)
    (news : List Notification) (e : Engine) : History :=
  match operation with
  | .recognize _ _ =>
    match answer with
    | .reply .done => [.begun]
    -- Neither of these reaches the connection: nothing has begun.
    | .reply (.failed .invalidLanguageModel) | .reply (.failed .activeRecognition) => []
    | .reply (.failed error) => [.begun, .notStarted error]
    | _ => []
  | .wait => if e.isOpen && history.undecided then [] else .taken :: closing e
  | .cancel =>
    canceled history e ++ news.map .heard ++
      match answer with
      | .reply .done => closing e
      | _ => []
  | .close => [.closed]
  | .message octets =>
    let discards := (Inbound.ofMessage? e.settings.protocol octets).any
      (·.cancels history.canceling e.handle.state.inRecognition)
    news.map .heard ++ if e.subscribed && discards then [.discarded] else []
  | _ => news.map .heard

/-- A state that operations lead to from a new recognizer while nobody acts from inside a callback,
and the history of these operations. -/
inductive Recorded : Engine → History → Prop where
  | new {e : Engine} : e.New → Recorded e []
  | attach {e : Engine} {history : History} (source : AudioSource) :
      Recorded e history → Recorded (e.attach source).2 history
  | step {e : Engine} {history : History} (depth : Nat) {outside : Outside}
      {operation : Operation} : Recorded e history → Observing outside operation e →
      Recorded (e.step depth outside operation).2 (history ++
        marks history operation (e.step depth outside operation).1 (e.news outside operation) e)

theorem Recorded.reachable {e : Engine} {history : History} (recorded : Recorded e history) :
    e.Reachable := by
  induction recorded with
  | new made => exact .new made
  | attach source _ before => exact .attach source before
  | step depth _ _ before => exact .step depth _ _ before

/-! ## News -/

def reports (link : Link) (operation : Operation) (e : Engine) : List Notification :=
  match operation with
  | .recognize source model =>
    if model.usable && !e.handle.active then
      (startFailure link (e.onHandle (·.begin source model))).toList.map .error
    else []
  | .cancel =>
    (if e.isOpen then link.sendFailure true Request.cancelRecognition else none).toList.map .error
  | .message octets =>
    if e.subscribed then
      match Inbound.ofMessage? e.settings.protocol octets with
      | some event =>
        Effect.allReports link e.isOpen (e.handle.transition event e.settings.parameters).2
      | none => []
    else []
  | .lost reason =>
    if e.subscribed && e.handle.recognizing then [.error (.connectionFailure reason)] else []
  | .stream s => (turnFailure link s e).toList.map .error
  | _ => []

/-- All listeners were told more on the way from one state to another. -/
structure Hears (e e' : Engine) (more : List Notification) : Prop where
  listeners : e'.listeners = e.listeners
  told : ∀ i < e.listeners, e'.told i = e.told i ++ more

theorem Hears.of_face {e e' : Engine} {more : List Notification} {handle : Handle} {isOpen : Bool}
    (face : e'.face = { e.face.hear more with handle, isOpen }) : Hears e e' more where
  listeners := congrArg Face.listeners face
  told := by
    intro i bound
    have told : e'.told i = if i < e.listeners then e.told i ++ more else e.told i :=
      congrFun (congrArg Face.told face) i
    rw [told, if_pos bound]

theorem Hears.of_silent_face {e e' : Engine} {handle : Handle} {isOpen : Bool}
    (face : e'.face = { e.face with handle, isOpen }) : Hears e e' [] := by
  rw [← e.face.hear_nil] at face
  exact .of_face face

theorem step_hears {outside : Outside} {operation : Operation} {e : Engine}
    (observing : Observing outside operation e) (depth : Nat) :
    Hears e (step depth outside operation e).2 (reports outside.toLink operation e) := by
  have telling := notifyAll_face observing.listeners depth
  cases operation with
  | recognize source model =>
    simp only [step, reports]
    cases usable : model.usable with
    | false =>
      rw [recognize_of_unusable _ _ _ _ usable]
      exact .of_silent_face rfl
    | true =>
      cases active : e.handle.active with
      | true =>
        rw [recognize_of_active _ _ _ usable active]
        exact .of_silent_face rfl
      | false =>
        obtain ⟨-, face⟩ := recognize_face outside.toLink telling source usable active
        simp only [Bool.not_false, Bool.and_true, if_true]
        cases failure : startFailure outside.toLink (e.onHandle (·.begin source model)) with
        | none =>
          rw [failure] at face
          exact .of_silent_face face
        | some error =>
          rw [failure] at face
          exact .of_face face
  | wait =>
    simp only [step, reports]
    cases waiting : e.isOpen && e.handle.stillWaiting with
    | true =>
      rw [waitResult_of_waiting _ waiting]
      exact .of_silent_face rfl
    | false =>
      have face := waitResult_face outside.toLink e waiting
      split at face
      · exact .of_silent_face face
      · exact .of_silent_face face
  | cancel =>
    obtain ⟨-, face⟩ := cancel_face outside.toLink telling e
    simp only [step, reports]
    cases failure : (if e.isOpen then outside.sendFailure true Request.cancelRecognition
      else none) with
    | some error =>
      rw [failure] at face
      exact .of_face face
    | none =>
      rw [failure] at face
      dsimp only at face
      split at face
      · exact .of_silent_face face
      · exact .of_silent_face face
  | startTimers => exact .of_silent_face (send_face outside.toLink e _)
  | close => exact .of_silent_face (close_face outside.toLink e)
  | status => exact .of_silent_face rfl
  | write source bytes => exact .of_silent_face (write_face e source bytes)
  | finish source => exact .of_silent_face rfl
  | message octets =>
    simp only [step, reports]
    split
    · rw [receive_eq]
      cases brought : Inbound.ofMessage? e.settings.protocol octets with
      | none => exact .of_silent_face rfl
      | some event =>
        have consistent := Inbound.ofMessage?_consistent brought
        obtain ⟨handle, face, -⟩ := process_face outside.toLink telling consistent e
        exact .of_face face
    · exact .of_silent_face rfl
  | lost reason =>
    simp only [step, reports]
    split
    next subscribed =>
      have face := connectionClosed_face telling reason e
      split at face
      next running =>
        simp only [running, subscribed, Bool.and_self, if_true]
        exact .of_face face
      next ended =>
        simp only [ended, Bool.and_false, Bool.false_eq_true, if_false]
        exact .of_silent_face face
    next unheard =>
      simp only [unheard, Bool.false_and, Bool.false_eq_true, if_false]
      exact .of_silent_face rfl
  | vanish => exact .of_silent_face rfl
  | stream thread =>
    have face := turn_face outside.toLink telling thread e (observing.source thread rfl)
    simp only [step, reports]
    cases failure : turnFailure outside.toLink thread e with
    | some error =>
      rw [failure] at face
      exact .of_face face
    | none =>
      rw [failure] at face
      exact .of_silent_face face

theorem news_eq_reports {outside : Outside} {operation : Operation} {e : Engine}
    (observing : Observing outside operation e) :
    news outside operation e = reports outside.toLink operation e := by
  -- What is told depends neither on the listeners nor on what they were told before.
  let alone : Engine := { e with listeners := 1, trace := [] }
  have sources : alone.sources = e.sources := rfl
  have read (source : SourceId) : (readSource source alone).1 = (readSource source e).1 :=
    readSource_fst_congr sources source
  have observingAlone : Observing outside operation alone :=
    ⟨observing.listeners, fun thread same => read thread.source ▸ observing.source thread same⟩
  have heard : news outside operation e = reports outside.toLink operation alone :=
    (step_hears observingAlone 0).told 0 Nat.one_pos
  have same : reports outside.toLink operation alone = reports outside.toLink operation e := by
    cases operation with
    | stream thread =>
      simp only [reports, turnFailure, read]
      rfl
    | _ => rfl
  rw [heard, same]

variable {history : History} {outside : Outside} {depth : Nat} {e : Engine}

theorem marks_recognize_refused (history : History) (outside : Outside) (depth : Nat)
    (source : SourceId) {model : LanguageModel} (news : List Notification)
    (refused : (model.usable && !e.handle.active) = false) :
    marks history (.recognize source model)
        (step depth outside (.recognize source model) e).1 news e = [] ∧
      (step depth outside (.recognize source model) e).2 = e := by
  simp only [step]
  cases usable : model.usable with
  | false =>
    rw [recognize_of_unusable _ _ _ _ usable]
    exact ⟨rfl, rfl⟩
  | true =>
    have active : e.handle.active = true := by simpa [usable] using refused
    rw [recognize_of_active _ _ _ usable active]
    exact ⟨rfl, rfl⟩

theorem marks_recognize_begun {source : SourceId} {model : LanguageModel}
    (observing : Observing outside (.recognize source model) e) (usable : model.usable = true)
    (idle : e.handle.active = false) (news : List Notification) :
    marks history (.recognize source model)
        (step depth outside (.recognize source model) e).1 news e =
      .begun ::
        (startFailure outside.toLink (e.onHandle (·.begin source model))).toList.map
          .notStarted := by
  have telling := notifyAll_face observing.listeners depth
  obtain ⟨answer, -⟩ := recognize_face outside.toLink telling source usable idle
  simp only [step, answer]
  cases failed : startFailure outside.toLink (e.onHandle (·.begin source model)) with
  | none => rfl
  | some error =>
    -- Only the connection can fail here, so the answer is none of those that nothing has begun.
    obtain ⟨⟨error, external⟩, rfl⟩ := startFailure_refusal usable failed
    cases error <;> first | rfl | cases external

theorem filterMap_heard_map (news : List Notification) :
    (news.map Mark.heard).filterMap Mark.heard? = news := by
  have same : Mark.heard? ∘ Mark.heard = some := rfl
  rw [List.filterMap_map, same, List.filterMap_some]

theorem canceled_heard : (canceled history e).filterMap Mark.heard? = [] := by
  unfold canceled
  split
  · rfl
  · split <;> rfl

theorem closing_heard : (closing e).filterMap Mark.heard? = [] := by
  unfold closing
  split <;> rfl

theorem marks_heard {operation : Operation} (observing : Observing outside operation e) :
    (marks history operation (step depth outside operation e).1
      (reports outside.toLink operation e) e).filterMap Mark.heard? =
      reports outside.toLink operation e := by
  cases operation with
  | recognize source model =>
    cases accepted : model.usable && !e.handle.active with
    | false =>
      rw [(marks_recognize_refused history outside depth source _ accepted).1]
      simp [reports, accepted]
    | true =>
      simp only [Bool.and_eq_true, Bool.not_eq_true'] at accepted
      rw [marks_recognize_begun observing accepted.1 accepted.2]
      simp only [reports, accepted]
      cases startFailure outside.toLink (e.onHandle (·.begin source model)) with
      | none => rfl
      | some error => rfl
  | wait =>
    simp only [marks, reports]
    split
    · rfl
    · exact closing_heard
  | cancel =>
    simp only [marks, List.filterMap_append, canceled_heard, filterMap_heard_map, List.nil_append]
    split
    · rw [closing_heard, List.append_nil]
    · exact List.append_nil _
  | close => rfl
  | message octets =>
    simp only [marks, List.filterMap_append, filterMap_heard_map]
    split
    · exact List.append_nil _
    · exact List.append_nil _
  | _ => exact filterMap_heard_map _

end SpeechClient.Engine
