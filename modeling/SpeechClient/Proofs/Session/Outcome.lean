import SpeechClient.Proofs.Session.Coherence
import SpeechClient.Proofs.Session.Record

/-!
# The outcome of a wait

What listeners hear and what a wait gives come about on two paths: listeners are told while an event
is dealt with, the outcome is recorded after that.  Where listeners only observe, the two agree over
whole runs, and a wait gives exactly what listeners were told.

- `Engine.Agrees`: what a state and its history have to do with each other.
- `Engine.Agrees.step`: every operation keeps that.
- `Engine.waitResult_eq_told`: what a wait gives.
-/

namespace SpeechClient.Engine

open Wire

variable {history : History} {outside : Outside} {depth : Nat} {e : Engine}

/-- Where a state and its history have the recognition. -/
structure Agrees (e : Engine) (history : History) : Prop where
  standing : e.handle.standing = history.standing
  /-- On an open connection nothing but an outcome ends the wait. -/
  undecided : e.isOpen = true → history.undecided = history.running

theorem Agrees.waiting (agrees : Agrees e history) (coherent : e.handle.Coherent) :
    (e.isOpen && e.handle.stillWaiting) = (e.isOpen && history.undecided) := by
  cases connected : e.isOpen with
  | false => rfl
  | true =>
    have running : e.handle.recognizing = history.running :=
      congrArg History.Standing.running agrees.standing
    -- A failure would end the wait as well, but a running recognition has none.
    have waiting : e.handle.stillWaiting = e.handle.recognizing := by
      unfold Handle.stillWaiting
      cases recognizing : e.handle.recognizing with
      | false => simp
      | true => simp [coherent.error recognizing]
    rw [waiting, running, agrees.undecided connected]

theorem Agrees.standing_append {h : Handle} {marks : History} (agrees : Agrees e history)
    (after : h.standing = e.handle.standing.afterAll marks) :
    h.standing = (history ++ marks : History).standing := by
  rw [after, agrees.standing, History.standing_append]

theorem Agrees.append {e' : Engine} {marks : History} (agrees : Agrees e history)
    (standing : e'.handle.standing = e.handle.standing.afterAll marks)
    (connected : e'.isOpen = true → e.isOpen = true)
    (lasting : ∀ mark ∈ marks, mark.ends = false) : Agrees e' (history ++ marks) where
  standing := agrees.standing_append standing
  undecided isOpen :=
    History.undecided_eq_running_append (agrees.undecided (connected isOpen)) lasting

theorem Agrees.of_closed {e' : Engine} {marks : History} (agrees : Agrees e history)
    (standing : e'.handle.standing = e.handle.standing.afterAll marks)
    (closed : e'.isOpen = false) : Agrees e' (history ++ marks) where
  standing := agrees.standing_append standing
  undecided isOpen := by simp [closed] at isOpen

theorem Agrees.append_face {e' : Engine} {handle : Handle} {more : List Notification}
    {marks : History} (agrees : Agrees e history)
    (face : e'.face = { e.face.hear more with handle })
    (standing : handle.standing = e.handle.standing.afterAll marks)
    (lasting : ∀ mark ∈ marks, mark.ends = false) : Agrees e' (history ++ marks) := by
  have handle : e'.handle = handle := congrArg Face.handle face
  have isOpen : e'.isOpen = e.isOpen := congrArg Face.isOpen face
  exact agrees.append (handle ▸ standing) (fun connected => isOpen ▸ connected) lasting

theorem Agrees.closed_face {e' : Engine} {handle : Handle} {more : List Notification}
    {marks : History} (agrees : Agrees e history)
    (face : e'.face = { e.face.hear more with handle, isOpen := false })
    (standing : handle.standing = e.handle.standing.afterAll marks) :
    Agrees e' (history ++ marks) := by
  have handle : e'.handle = handle := congrArg Face.handle face
  exact agrees.of_closed (handle ▸ standing) (congrArg Face.isOpen face)

theorem Agrees.same_face {e' : Engine} (agrees : Agrees e history) (face : e'.face = e.face) :
    Agrees e' (history ++ []) := by
  rw [← e.face.hear_nil] at face
  exact agrees.append_face face rfl (by simp)

theorem heard_lasting (news : List Notification) :
    ∀ mark ∈ news.map Mark.heard, mark.ends = false := by
  intro mark member
  obtain ⟨n, -, rfl⟩ := List.mem_map.mp member
  rfl

theorem Agrees.recognize {source : SourceId} {model : LanguageModel} (agrees : Agrees e history)
    (coherent : e.handle.Coherent) (observing : Observing outside (.recognize source model) e)
    (news : List Notification) :
    Agrees (step depth outside (.recognize source model) e).2 (history ++
      marks history (.recognize source model)
        (step depth outside (.recognize source model) e).1 news e) := by
  cases accepted : model.usable && !e.handle.active with
  | false =>
    obtain ⟨none, same⟩ := marks_recognize_refused history outside depth source news accepted
    rw [none, same, List.append_nil]
    exact agrees
  | true =>
    simp only [Bool.and_eq_true, Bool.not_eq_true'] at accepted
    obtain ⟨usable, idle⟩ := accepted
    -- A recognition begins without a look at the cancel that may be pending.
    obtain ⟨-, unasked⟩ := coherent.not_pending_of_idle idle
    have telling := notifyAll_face observing.listeners depth
    obtain ⟨-, face⟩ := recognize_face outside.toLink telling source usable idle
    rw [marks_recognize_begun observing usable idle]
    have begun : (e.handle.begin source model).standing = e.handle.standing.after .begun := by
      simp [Handle.standing, Handle.begin, unasked, History.Standing.after]
    have standing : (step depth outside (.recognize source model) e).2.handle.standing =
        e.handle.standing.afterAll (.begun ::
          (startFailure outside.toLink (e.onHandle (·.begin source model))).toList.map
            .notStarted) := by
      change (Engine.recognize outside.toLink _ source model e).2.face.handle.standing = _
      rw [face]
      cases startFailure outside.toLink (e.onHandle (·.begin source model)) with
      | none => exact begun
      | some error => rfl
    refine ⟨agrees.standing_append standing, ?_⟩
    intro _
    refine History.undecided_eq_running_begun ?_
    intro mark member
    obtain ⟨error, -, rfl⟩ := List.mem_map.mp member
    rfl

theorem Agrees.wait (agrees : Agrees e history) (coherent : e.handle.Coherent)
    (news : List Notification) : Agrees (step depth outside .wait e).2 (history ++
      marks history .wait (step depth outside .wait e).1 news e) := by
  simp only [marks, closing, ← agrees.waiting coherent, Engine.step]
  split
  next waiting =>
    rw [waitResult_of_waiting _ waiting, List.append_nil]
    exact agrees
  next decided =>
    have decided : (e.isOpen && e.handle.stillWaiting) = false := Bool.eq_false_iff.mpr decided
    have face := waitResult_face outside.toLink e decided
    split
    next closing =>
      rw [if_pos closing] at face
      refine agrees.of_closed ?_ (congrArg Face.isOpen face)
      have handle : (waitResult outside.toLink e).2.handle = {} := congrArg Face.handle face
      rw [handle]
      rfl
    next staying =>
      rw [if_neg staying] at face
      have handle : (waitResult outside.toLink e).2.handle = e.handle.takeOutcome :=
        congrArg Face.handle face
      have isOpen : (waitResult outside.toLink e).2.isOpen = e.isOpen := congrArg Face.isOpen face
      have standing : (waitResult outside.toLink e).2.handle.standing =
          e.handle.standing.afterAll [.taken] := by
        rw [handle]
        rfl
      refine ⟨agrees.standing_append standing, ?_⟩
      intro connected
      rw [isOpen] at connected
      -- To take an outcome ends a wait that, on an open connection, the outcome has ended before.
      have given : history.undecided = false := by
        rw [agrees.waiting coherent, connected] at decided
        exact decided
      have ended : history.running = false := by
        rw [← agrees.undecided connected, given]
      simp only [History.undecided, History.running] at given ended ⊢
      rw [History.ongoing_concat, History.ongoing_concat, given, ended]
      rfl

theorem markCanceled_standing (agrees : Agrees e history) (coherent : e.handle.Coherent) :
    (markCanceled e).handle.standing = e.handle.standing.afterAll (canceled history e) := by
  have same : e.handle.recognizing = history.running :=
    congrArg History.Standing.running agrees.standing
  unfold markCanceled canceled
  rw [← same]
  cases running : e.handle.recognizing with
  | true =>
    cases e.isOpen with
    | true =>
      simp [Handle.standing, running, History.Standing.afterAll, History.Standing.after, onHandle]
    | false => exact e.handle.discard_standing
  | false =>
    -- A cancel that finds nothing running leaves no trace: none was pending before either.
    have unasked : e.handle.cancelPending = false := by
      cases pending : e.handle.cancelPending with
      | false => rfl
      | true => exact absurd (coherent.running_of_cancelPending pending) (by simp [running])
    cases e.isOpen with
    | true =>
      simp [Handle.standing, running, unasked, History.Standing.afterAll, History.Standing.after]
    | false => rfl

theorem canceled_lasting : ∀ mark ∈ canceled history e, mark.ends = false := by
  intro mark member
  unfold canceled at member
  split at member
  · rw [List.mem_singleton.mp member]
    rfl
  · split at member
    · rw [List.mem_singleton.mp member]
      rfl
    · cases member

theorem Agrees.cancel (agrees : Agrees e history) (coherent : e.handle.Coherent)
    (observing : Observing outside .cancel e) :
    Agrees (step depth outside .cancel e).2 (history ++ marks history .cancel
      (step depth outside .cancel e).1 (reports outside.toLink .cancel e) e) := by
  have telling := notifyAll_face observing.listeners depth
  obtain ⟨answer, face⟩ := cancel_face outside.toLink telling e
  have marked := markCanceled_standing agrees coherent
  simp only [marks, reports, Engine.step, answer]
  cases failure : (if e.isOpen then outside.sendFailure true Request.cancelRecognition
    else none) with
  | some error =>
    rw [failure] at face
    refine agrees.append_face face ?_ ?_
    · rw [History.Standing.afterAll_append, History.Standing.afterAll_append, ← marked]
      rfl
    · intro mark member
      simp only [replyOf, List.append_nil] at member
      cases List.mem_append.mp member with
      | inl asked => exact canceled_lasting mark asked
      | inr heard => exact heard_lasting [.error error] mark heard
  | none =>
    rw [failure, ← e.face.hear_nil] at face
    simp only [replyOf, Option.toList_none, List.map_nil, List.append_nil, closing]
    dsimp only at face
    split at face
    next closes =>
      refine agrees.closed_face face ?_
      rw [if_pos closes, History.Standing.afterAll_append, ← marked]
      rfl
    next stays =>
      rw [if_neg stays, List.append_nil]
      exact agrees.append_face face marked canceled_lasting

theorem Agrees.message {octets : Bytes} (agrees : Agrees e history)
    (observing : Observing outside (.message octets) e) (answer : Answer) :
    Agrees (step depth outside (.message octets) e).2 (history ++ marks history
      (.message octets) answer (reports outside.toLink (.message octets) e) e) := by
  have telling := notifyAll_face observing.listeners depth
  have canceling : e.handle.cancelPending = history.canceling :=
    congrArg History.Standing.canceling agrees.standing
  simp only [marks, reports, Engine.step]
  cases subscribed : e.subscribed with
  | false => simpa using agrees
  | true =>
    simp only [if_true, Bool.true_and]
    rw [receive_eq]
    cases brought : Inbound.ofMessage? e.settings.protocol octets with
    | none => simpa using agrees
    | some event =>
      have consistent := Inbound.ofMessage?_consistent brought
      obtain ⟨handle, face, standing⟩ := process_face outside.toLink telling consistent e
      rw [canceling] at standing
      refine agrees.append_face face standing ?_
      intro mark member
      cases List.mem_append.mp member with
      | inl heard => exact heard_lasting _ mark heard
      | inr canceled =>
        split at canceled
        · rw [List.mem_singleton.mp canceled]
          rfl
        · cases canceled

theorem Agrees.lost {reason : String} (agrees : Agrees e history)
    (observing : Observing outside (.lost reason) e) (answer : Answer) :
    Agrees (step depth outside (.lost reason) e).2 (history ++ marks history
      (.lost reason) answer (reports outside.toLink (.lost reason) e) e) := by
  have telling := notifyAll_face observing.listeners depth
  simp only [marks, reports, Engine.step]
  cases e.subscribed with
  | false => exact agrees.of_closed rfl rfl
  | true =>
    have face := connectionClosed_face telling reason e
    cases running : e.handle.recognizing with
    | false =>
      rw [running, ← e.face.hear_nil] at face
      exact agrees.closed_face face rfl
    | true =>
      rw [running] at face
      exact agrees.closed_face face (Handle.fail_standing _ _)

theorem Agrees.stream {thread : Streamer} (agrees : Agrees e history)
    (observing : Observing outside (.stream thread) e) (answer : Answer) :
    Agrees (step depth outside (.stream thread) e).2 (history ++ marks history
      (.stream thread) answer (reports outside.toLink (.stream thread) e) e) := by
  have telling := notifyAll_face observing.listeners depth
  have face := turn_face outside.toLink telling thread e (observing.source thread rfl)
  simp only [marks, reports, Engine.step]
  cases failure : turnFailure outside.toLink thread e with
  | none =>
    rw [failure] at face
    exact agrees.same_face face
  | some error =>
    rw [failure] at face
    exact agrees.append_face face (e.handle.fail_standing error) (heard_lasting [.error error])

theorem Agrees.step {operation : Operation} (agrees : Agrees e history)
    (coherent : e.handle.Coherent) (observing : Observing outside operation e) :
    Agrees (step depth outside operation e).2 (history ++ marks history operation
      (step depth outside operation e).1 (reports outside.toLink operation e) e) := by
  cases operation with
  | recognize source model => exact agrees.recognize coherent observing _
  | wait => exact agrees.wait coherent _
  | cancel => exact agrees.cancel coherent observing
  | startTimers => exact agrees.same_face (send_face outside.toLink e _)
  | close =>
    have face := close_face outside.toLink e
    have handle : (close outside.toLink e).handle = {} := congrArg Face.handle face
    refine agrees.of_closed ?_ (congrArg Face.isOpen face)
    change (close outside.toLink e).handle.standing = _
    rw [handle]
    rfl
  | status => exact agrees.same_face rfl
  | write source bytes => exact agrees.same_face (write_face e source bytes)
  | finish source => exact agrees.same_face rfl
  | message octets => exact agrees.message observing _
  | lost reason => exact agrees.lost observing _
  | vanish => exact agrees.of_closed rfl rfl
  | stream thread => exact agrees.stream observing _

theorem Recorded.agrees (recorded : Recorded e history) : Agrees e history := by
  induction recorded with
  | new made =>
    refine ⟨?_, fun _ => rfl⟩
    rw [made.handle]
    rfl
  | attach source _ before => exact ⟨before.standing, before.undecided⟩
  | step depth recorded observing before =>
    rw [news_eq_reports observing]
    exact before.step recorded.reachable.coherent observing

theorem Recorded.told (recorded : Recorded e history) :
    ∀ i < e.listeners, e.told i = history.filterMap Mark.heard? := by
  induction recorded with
  | new made =>
    intro i _
    refine List.filterMap_eq_nil_iff.mpr ?_
    intro o member
    cases o with
    | notified listener n => exact absurd member (made.trace listener n)
    | _ => rfl
  | attach source _ before => exact before
  | step depth recorded observing before =>
    have hears := step_hears observing depth
    intro i bound
    rw [hears.listeners] at bound
    rw [hears.told i bound, before i bound, List.filterMap_append, news_eq_reports observing,
      marks_heard observing]

/-! ## What a wait gives -/

theorem waitResult_fst (link : Link) (decided : (e.isOpen && e.handle.stillWaiting) = false) :
    (waitResult link e).1 = match e.handle.error with
      | some error => .error error
      | none => .ok e.handle.results := by
  unfold waitResult
  simp only [decided, Bool.false_eq_true, if_false]
  cases e.handle.error with
  | some error => rfl
  | none => rfl

/-- On an open connection a recognition that has had no outcome is waited for in vain, and such a
wait changes nothing.  Any other wait gives what listeners were told: the first failure that nobody
has taken, or else the results that nobody has taken, in order. -/
theorem waitResult_eq_told (recorded : Recorded e history) (link : Link) :
    (waitResult link e = (.error (.timeout e.settings.maxWait), e) ↔
      e.isOpen = true ∧ history.undecided = true) ∧
    (¬(e.isOpen = true ∧ history.undecided = true) →
      (waitResult link e).1 = match history.firstError with
        | some error => .error error
        | none => .ok history.results) ∧
    ∀ i < e.listeners, e.told i = history.filterMap Mark.heard? := by
  have agrees := recorded.agrees
  have waiting : (e.isOpen && e.handle.stillWaiting) = true ↔
      e.isOpen = true ∧ history.undecided = true := by
    rw [agrees.waiting recorded.reachable.coherent, Bool.and_eq_true]
  have error : e.handle.error = history.firstError :=
    congrArg History.Standing.error agrees.standing
  have results : e.handle.results = history.results :=
    congrArg History.Standing.results agrees.standing
  have given (decided : (e.isOpen && e.handle.stillWaiting) = false) :=
    waitResult_fst link decided
  refine ⟨⟨?_, ?_⟩, ?_, recorded.told⟩
  · intro vain
    cases decided : e.isOpen && e.handle.stillWaiting with
    | true => exact waiting.mp decided
    | false =>
      -- The failure would have to be in the handle, and no wait leaves it there.
      have face := waitResult_face link e decided
      have outcome := given decided
      rw [vain] at face outcome
      have taken : e.handle.error = none := by
        split at face
        · have handle : e.handle = {} := congrArg Face.handle face
          rw [handle]
        · have handle : e.handle = e.handle.takeOutcome := congrArg Face.handle face
          rw [handle]
          rfl
      rw [taken] at outcome
      cases outcome
  · intro vain
    exact waitResult_of_waiting link (waiting.mpr vain)
  · intro decided
    rw [← error, ← results]
    exact given (Bool.eq_false_iff.mpr fun vain => decided (waiting.mp vain))

/-- A listener is told a result, and the wait gives it. -/
theorem waitResult_eq_told_result :
    let outside : Outside := { Link.reliable with }
    let recognize := Operation.recognize 0 (.ofUri "builtin:slm")
    let message := Operation.message
      (utf8 "ASR 2.4 RECOGNITION_RESULT\r\nResult-Status: NO_MATCH\r\n\r\n")
    let decided := ((sample.step 0 outside recognize).2.step 0 outside message).2
    Recorded decided [.begun, .heard (.result (.ofStatus "NO_MATCH"))] ∧
      (waitResult Link.reliable decided).1 = .ok [.ofStatus "NO_MATCH"] ∧
      decided.told 0 = [.result (.ofStatus "NO_MATCH")] := by
  intro outside recognize message decided
  let begun := (sample.step 0 outside recognize).2
  have beginning : Observing outside recognize sample :=
    ⟨fun _ _ => rfl, fun thread same => by simp [recognize] at same⟩
  have bringing : Observing outside message begun :=
    ⟨fun _ _ => rfl, fun thread same => by simp [message] at same⟩
  have first : marks [] recognize (sample.step 0 outside recognize).1
      (news outside recognize sample) sample = [.begun] := by decide +kernel
  have second : marks [.begun] message (begun.step 0 outside message).1
      (news outside message begun) begun = [.heard (.result (.ofStatus "NO_MATCH"))] := by
    decide +kernel
  have recorded : Recorded decided [.begun, .heard (.result (.ofStatus "NO_MATCH"))] := by
    have started := (Recorded.new sample_new).step 0 beginning
    rw [first] at started
    have told := started.step 0 bringing
    rw [List.nil_append, second] at told
    exact told
  obtain ⟨-, given, told⟩ := waitResult_eq_told recorded Link.reliable
  have outcome : ¬(decided.isOpen = true ∧ History.undecided
      [.begun, .heard (.result (.ofStatus "NO_MATCH"))] = true) := by decide +kernel
  exact ⟨recorded, given outcome, told 0 (by decide +kernel)⟩

end SpeechClient.Engine
