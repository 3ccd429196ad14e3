import SpeechClient.Proofs.Session.Reports

/-!
# Listeners that only observe

Where no callback uses the recognizer, an operation can be followed on the face of the recognizer:
what becomes of the handle and the connection, and what listeners are told.  The theorems about
operations ask of the listeners only that telling them something has no other effect.

- `Face.hear`: all listeners are told more.
- `Engine.startFailure`, `turnFailure`: what goes wrong on the way.
- `Engine.process_face`: what an event does to the face.
-/

namespace SpeechClient

open Wire

def Face.hear (more : List Notification) (f : Face) : Face :=
  { f with told := fun i => if i < f.listeners then f.told i ++ more else f.told i }

namespace Face

theorem hear_nil (f : Face) : f.hear [] = f := by
  simp [hear]

theorem hear_hear (f : Face) (first second : List Notification) :
    (f.hear first).hear second = f.hear (first ++ second) := by
  refine Face.ext rfl rfl rfl rfl ?_
  funext i
  simp only [hear]
  split
  · simp
  · rfl

end Face

namespace LanguageModel

/-- A model is put into a frame if there is something to recognize against. -/
theorem apply_cases (model : LanguageModel) (frame : Frame) :
    (model.usable = true ∧ ∃ started, model.apply frame = .ok started) ∨
      (model.usable = false ∧ model.apply frame = .error .invalidLanguageModel) := by
  unfold usable apply
  cases model.uri? with
  | some uri => exact .inl ⟨rfl, _, rfl⟩
  | none =>
    cases model.grammar? with
    | some grammar => exact .inl ⟨rfl, _, rfl⟩
    | none => exact .inr ⟨rfl, rfl⟩

end LanguageModel

namespace Engine

theorem observe_notified_face (e : Engine) (listener : Nat) (n : Notification) :
    (e.observe (.notified listener n)).face =
      { e.face with told := fun i => if i = listener then e.told i ++ [n] else e.told i } := by
  have same : (e.observe (.notified listener n)).told =
      fun i => if i = listener then e.told i ++ [n] else e.told i := by
    funext i
    by_cases here : i = listener
    · simp [told, observe, Observation.heardBy, here]
    · simp [told, observe, Observation.heardBy, here, Ne.symm here]
  exact Face.ext rfl rfl rfl rfl same

theorem note_face (e : Engine) (n : Notification) (count : Nat) :
    ((List.range count).foldl (fun e i => e.observe (.notified i n)) e).face =
      { e.face with told := fun i => if i < count then e.told i ++ [n] else e.told i } := by
  -- Listeners are told in turn: those below the count have been told, each of them once.
  induction count with
  | zero => simp [face]
  | succ count before =>
    rw [List.range_succ, List.foldl_append, List.foldl_cons, List.foldl_nil,
      observe_notified_face, before]
    refine Face.ext rfl rfl rfl rfl ?_
    funext i
    have toldBefore (i : Nat) : ((List.range count).foldl
        (fun e i => e.observe (.notified i n)) e).told i =
        if i < count then e.told i ++ [n] else e.told i :=
      congrFun (congrArg Face.told before) i
    simp only [toldBefore]
    by_cases last : i = count
    · simp [last]
    · have bound : i < count + 1 ↔ i < count := by omega
      simp [last, bound]

theorem notifyAll_face {outside : Outside} (observing : ∀ i n, outside.reaction i n = .done)
    (depth : Nat) (n : Notification) (e : Engine) :
    (notifyAll outside depth n e).face = e.face.hear [n] := by
  cases depth with
  | zero => exact note_face e n e.listeners
  | succ depth =>
    simp only [notifyAll, observing, react]
    exact note_face e n e.listeners

/-! ## What fails -/

theorem send_fst (link : Link) (frame : Frame) (e : Engine) :
    (send link frame e).1 = link.sendFailure e.isOpen frame := by
  unfold send Link.sendFailure
  cases link.refuseSend e.isOpen frame with
  | none => rfl
  | some refusal => rfl

def openFailure (link : Link) (e : Engine) : Option RecognitionError :=
  if e.isOpen then none else (link.refuseOpen e.endpoint).map Refusal.error

def startFailure (link : Link) (e : Engine) : Option RecognitionError :=
  match openFailure link e, firstRequest e with
  | some error, _ => some error
  | none, .ok frame => link.sendFailure true frame
  | none, .error error => some error

def turnFailure (link : Link) (s : Streamer) (e : Engine) : Option RecognitionError :=
  if !e.threads.contains s then none
  else
    match (readSource s.source e).1.outcome with
    | .error error => some error
    | .ok (status, bytes) => (packet? status bytes).bind (link.sendFailure e.isOpen)

theorem openConnection_fst (link : Link) (e : Engine) :
    (openConnection link e).1 = openFailure link e := by
  unfold openConnection openFailure
  split
  · rfl
  · have endpoint : (e.observe (.opened e.endpoint)).endpoint = e.endpoint := rfl
    dsimp only
    rw [endpoint]
    cases link.refuseOpen e.endpoint with
    | none => rfl
    | some refusal => rfl

theorem sendFirst_fst (link : Link) (e : Engine) :
    (sendFirst link e).1 = startFailure link e := by
  have opened := openConnection_face link e
  unfold sendFirst startFailure
  rw [← openConnection_fst]
  generalize openConnection link e = connection at opened
  obtain ⟨failure, e'⟩ := connection
  cases failure with
  | some error => rfl
  | none =>
    dsimp only at opened ⊢
    have isOpen : e'.isOpen = true := congrArg Face.isOpen opened
    have handle : e'.handle = e.handle := congrArg Face.handle opened
    have settings : e'.settings = e.settings := congrArg Face.settings opened
    have same : firstRequest e' = firstRequest e := by
      simp only [firstRequest, handle, settings]
    rw [same]
    cases firstRequest e with
    | error error => rfl
    | ok frame =>
      rw [← isOpen]
      exact send_fst link frame e'

theorem firstRequest_begin (e : Engine) (source : SourceId) {model : LanguageModel}
    (usable : model.usable = true) :
    ∃ frame, firstRequest (e.onHandle (·.begin source model)) = .ok frame := by
  have applied (frame : Frame) : ∃ started, model.apply frame = .ok started := by
    obtain ⟨-, applied⟩ | ⟨unusable, -⟩ := model.apply_cases frame
    · exact applied
    · rw [usable] at unusable
      cases unusable
  unfold firstRequest
  split
  · exact ⟨_, rfl⟩
  · exact applied _

theorem startFailure_refusal {link : Link} {e : Engine} {source : SourceId}
    {model : LanguageModel} {error : RecognitionError} (usable : model.usable = true)
    (failed : startFailure link (e.onHandle (·.begin source model)) = some error) :
    ∃ refusal : Refusal, error = refusal.error := by
  obtain ⟨frame, requested⟩ := firstRequest_begin e source usable
  unfold startFailure at failed
  cases opened : openFailure link (e.onHandle (·.begin source model)) with
  | some refused =>
    rw [opened] at failed
    cases failed
    unfold openFailure at opened
    split at opened
    · cases opened
    · obtain ⟨refusal, -, same⟩ := Option.map_eq_some_iff.mp opened
      exact ⟨refusal, same.symm⟩
  | none =>
    rw [opened, requested] at failed
    obtain ⟨refusal, -, same⟩ := Option.map_eq_some_iff.mp failed
    exact ⟨refusal, same.symm⟩

theorem readSource_fst_congr {e e' : Engine} (same : e'.sources = e.sources) (source : SourceId) :
    (readSource source e').1 = (readSource source e).1 := by
  unfold readSource
  rw [same]
  cases e.sources[source]? with
  | none => rfl
  | some s => rfl

section Operations

variable (link : Link) {notify : Notify}
variable (telling : ∀ n e, (notify n e).face = e.face.hear [n])

theorem autoClose_face (e : Engine) : (autoClose link e).face =
    if e.settings.autoClose then { e.face with handle := {}, isOpen := false } else e.face := by
  unfold autoClose
  split
  · exact close_face link e
  · rfl

theorem waitResult_face (e : Engine) (decided : (e.isOpen && e.handle.stillWaiting) = false) :
    (waitResult link e).2.face =
      if e.settings.autoClose then { e.face with handle := {}, isOpen := false }
      else { e.face with handle := e.handle.takeOutcome } := by
  unfold waitResult
  split
  next waits => exact absurd waits (by simp [decided])
  · extract_lets h taken stopped closed
    have stoppedFace : stopped.face = taken.face := by
      unfold stopped
      split
      next s _ => exact stop_face taken s
      · rfl
    have settings : stopped.settings = e.settings := congrArg Face.settings stoppedFace
    have closedFace := autoClose_face link stopped
    rw [stoppedFace, settings] at closedFace
    split
    · exact closedFace
    · exact closedFace

theorem waitResult_of_waiting (link : Link) {e : Engine}
    (waiting : (e.isOpen && e.handle.stillWaiting) = true) :
    waitResult link e = (.error (.timeout e.settings.maxWait), e) := by
  simp only [waitResult, waiting, if_true]

theorem recognize_of_unusable (link : Link) (notify : Notify) (source : SourceId)
    {model : LanguageModel} (e : Engine) (unusable : model.usable = false) :
    recognize link notify source model e = (some .invalidLanguageModel, e) := by
  simp only [recognize, unusable, Bool.not_false, if_true]

theorem recognize_of_active (link : Link) (notify : Notify) (source : SourceId)
    {model : LanguageModel} {e : Engine} (usable : model.usable = true)
    (active : e.handle.active = true) :
    recognize link notify source model e = (some .activeRecognition, e) := by
  simp [recognize, usable, active]

theorem recognize_of_idle (link : Link) (notify : Notify) (source : SourceId)
    {model : LanguageModel} {e : Engine} (usable : model.usable = true)
    (idle : e.handle.active = false) :
    let sent := sendFirst link (e.onHandle (·.begin source model))
    recognize link notify source model e = match sent.1 with
      | none => (none, sent.2)
      | some error =>
        (some error, (notify (.error error) sent.2).onHandle fun h =>
          { h.finishRecognition with active := false }) := by
  intro sent
  simp only [recognize, usable, idle, Bool.not_true, Bool.false_eq_true, if_false]
  split
  next answer => simp only [sent, answer]
  next answer => simp only [sent, answer]

theorem receive_eq (notify : Notify) (octets : Bytes) (e : Engine) :
    receive link notify octets e = match Inbound.ofMessage? e.settings.protocol octets with
      | some event => process link notify event e
      | none => e := by
  unfold receive Inbound.ofMessage?
  cases Frame.parse octets with
  | error fault => rfl
  | ok frame =>
    dsimp only
    cases Inbound.classify e.settings.protocol frame with
    | none => rfl
    | some reading =>
      cases reading with
      | error fault => rfl
      | ok event => rfl

include telling

theorem fail_face (error : RecognitionError) (e : Engine) : (fail notify error e).face =
    { e.face.hear [.error error] with handle := e.handle.commit (.fail error) } := by
  have told := telling (.error error) e
  have handle : (notify (.error error) e).handle = e.handle := congrArg Face.handle told
  unfold fail
  rw [onHandle_face, told, handle]

theorem perform_face (commits : List Commit) (e : Engine) (effect : Effect) :
    (perform link notify (commits, e) effect).1 = commits ++ effect.records link e.isOpen ∧
      (perform link notify (commits, e) effect).2.face =
        e.face.hear (effect.reports link e.isOpen) := by
  cases effect with
  | send frame =>
    have sent := send_face link e frame
    have failure := send_fst link frame e
    simp only [perform, Effect.records, Effect.reports, ← failure]
    generalize send link frame e = answer at sent
    obtain ⟨failure, e'⟩ := answer
    cases failure with
    | none => exact ⟨(List.append_nil commits).symm, sent.trans (Face.hear_nil e.face).symm⟩
    | some error =>
      refine ⟨rfl, ?_⟩
      rw [← sent]
      exact telling (.error error) e'
  | startStreaming source =>
    simp only [perform, Effect.records, Effect.reports]
    cases link.threadFailure with
    | none => exact ⟨(List.append_nil commits).symm, (Face.hear_nil e.face).symm⟩
    | some error =>
      refine ⟨rfl, ?_⟩
      have refused : (e.observe (.threadRefused source)).face = e.face :=
        observe_face e fun _ => rfl
      rw [← refused]
      exact telling (.error error) _
  | notify n => exact ⟨(List.append_nil commits).symm, telling n e⟩
  | commit outcome =>
    cases outcome with
    | fail error => exact ⟨rfl, telling (.error error) e⟩
    | result r last => exact ⟨rfl, (Face.hear_nil e.face).symm⟩
    | finish discard => exact ⟨rfl, (Face.hear_nil e.face).symm⟩

theorem performAll_face (effects : List Effect) (commits : List Commit) (e : Engine) :
    (effects.foldl (perform link notify) (commits, e)).1 =
        commits ++ Effect.allRecords link e.isOpen effects ∧
      (effects.foldl (perform link notify) (commits, e)).2.face =
        e.face.hear (Effect.allReports link e.isOpen effects) := by
  induction effects generalizing commits e with
  | nil => simp [Effect.allRecords, Effect.allReports, Face.hear_nil]
  | cons effect rest after =>
    obtain ⟨records, face⟩ := perform_face link telling commits e effect
    obtain ⟨laterRecords, laterFace⟩ := after (perform link notify (commits, e) effect).1
      (perform link notify (commits, e) effect).2
    have isOpen : (perform link notify (commits, e) effect).2.isOpen = e.isOpen :=
      congrArg Face.isOpen face
    rw [isOpen, face, Face.hear_hear] at laterFace
    refine ⟨laterRecords.trans ?_, laterFace⟩
    rw [isOpen, records]
    simp [Effect.allRecords]

theorem process_face {event : Inbound} (consistent : event.Consistent) (e : Engine) :
    let reports := Effect.allReports link e.isOpen
      (e.handle.transition event e.settings.parameters).2
    ∃ handle, (process link notify event e).face = { e.face.hear reports with handle } ∧
      handle.standing = e.handle.standing.afterAll (reports.map .heard ++
        if event.cancels e.handle.cancelPending e.handle.state.inRecognition then [.discarded]
        else []) := by
  intro reports
  let handle := (e.handle.transition event e.settings.parameters).1
  let effects := (e.handle.transition event e.settings.parameters).2
  let started := startStreams link effects { e with handle }
  let performed := effects.foldl (perform link notify) ([], started)
  obtain ⟨streamer, startedFace⟩ := startStreams_face link { e with handle } effects
  obtain ⟨records, performedFace⟩ := performAll_face link telling effects [] started
  have isOpen : started.isOpen = e.isOpen := congrArg Face.isOpen startedFace
  have startedHandle : started.handle = { handle with streamer } :=
    congrArg Face.handle startedFace
  have performedHandle : performed.2.handle = started.handle := congrArg Face.handle performedFace
  -- Streams may have started in between, but the streamer has no part in the standing.
  have recorded : (performed.2.handle.commitAll performed.1).standing =
      (handle.commitAll (Effect.allRecords link e.isOpen effects)).standing := by
    have commits : performed.1 = Effect.allRecords link e.isOpen effects := by
      rw [records, isOpen]
      rfl
    rw [commits, performedHandle, startedHandle]
    have same : ({ handle with streamer } : Handle).standing = handle.standing := rfl
    exact Handle.commitAll_standing_congr same _
  refine ⟨performed.2.handle.commitAll performed.1, ?_, ?_⟩
  · change (performed.2.onHandle fun h => (h.record performed.1).2).face = _
    rw [onHandle_face, performedFace, startedFace, isOpen, Handle.record_snd]
    rfl
  · rw [recorded]
    exact e.handle.transition_standing link e.isOpen consistent e.settings.parameters

theorem connectionClosed_face (reason : String) (e : Engine) :
    let lost := { e.handle with state := .none, streamer := none }
    (connectionClosed notify reason e).face =
      if e.handle.recognizing then
        { e.face.hear [.error (.connectionFailure reason)] with
          handle := lost.commit (.fail (.connectionFailure reason)), isOpen := false }
      else { e.face with handle := lost, isOpen := false } := by
  intro lost
  unfold connectionClosed
  extract_lets running stopped failed
  have stoppedFace : stopped.face = { e.face with handle := lost } :=
    stopStreamer_face (e.onHandle fun h => { h with state := .none })
  have handle : stopped.handle = lost := congrArg Face.handle stoppedFace
  have failedFace : failed.face = if running then
      { e.face.hear [.error (.connectionFailure reason)] with
        handle := lost.commit (.fail (.connectionFailure reason)) }
      else { e.face with handle := lost } := by
    unfold failed
    split
    · rw [fail_face telling, stoppedFace, handle]
      rfl
    · exact stoppedFace
  change { failed.face with isOpen := false } = _
  rw [failedFace]
  unfold running
  split
  · rfl
  · rfl

theorem recognize_face (source : SourceId) {model : LanguageModel} {e : Engine}
    (usable : model.usable = true) (idle : e.handle.active = false) :
    let begun := e.onHandle (·.begin source model)
    (recognize link notify source model e).1 = startFailure link begun ∧
      (recognize link notify source model e).2.face =
        match startFailure link begun with
        | none => { begun.face with isOpen := (openFailure link e).isNone }
        | some error =>
          { begun.face.hear [.error error] with
            handle := { begun.handle.finishRecognition with active := false }
            isOpen := (openFailure link e).isNone } := by
  intro begun
  have sent := sendFirst_face link begun
  rw [openConnection_fst] at sent
  have failure := sendFirst_fst link begun
  rw [← failure]
  cases answer : sendFirst link begun with
  | mk result e' =>
    rw [answer] at sent
    rw [recognize_of_idle link notify source usable idle, answer]
    cases result with
    | none => exact ⟨rfl, sent⟩
    | some error =>
      have told := telling (.error error) e'
      have handle : (notify (.error error) e').handle = begun.handle :=
        (congrArg Face.handle told).trans (congrArg Face.handle sent)
      refine ⟨rfl, ?_⟩
      dsimp only at sent ⊢
      rw [onHandle_face, handle, told, sent]
      rfl

theorem cancel_face (e : Engine) :
    let handle := { (markCanceled e).handle with streamer := none }
    let failure := if e.isOpen then link.sendFailure true Request.cancelRecognition else none
    (cancel link notify e).1 = failure ∧
      (cancel link notify e).2.face =
        match failure with
        | some error =>
          { e.face.hear [.error error] with handle := handle.commit (.fail error) }
        | none =>
          if e.settings.autoClose then { e.face with handle := {}, isOpen := false }
          else { e.face with handle } := by
  intro handle failure
  obtain ⟨asked, face, canceled⟩ := cancel_eq link e notify
  rw [stopStreamer_face, markCanceled_face] at face
  have isOpen : (stopStreamer (markCanceled e)).isOpen = e.isOpen :=
    (congrArg Face.isOpen (stopStreamer_face (markCanceled e))).trans
      (congrArg Face.isOpen (markCanceled_face e))
  have answered : (if e.isOpen then
      (send link Request.cancelRecognition (stopStreamer (markCanceled e))).1 else none) =
      failure := by
    unfold failure
    rw [send_fst, isOpen]
    split
    next connected => rw [connected]
    · rfl
  rw [canceled, answered]
  have askedHandle : asked.handle = handle := congrArg Face.handle face
  have settings : asked.settings = e.settings := congrArg Face.settings face
  cases failure with
  | some error =>
    refine ⟨rfl, ?_⟩
    dsimp only
    rw [fail_face telling, face, askedHandle]
    rfl
  | none =>
    refine ⟨rfl, ?_⟩
    dsimp only
    rw [autoClose_face, face, settings]

theorem turn_face (s : Streamer) (e : Engine)
    (passive : (readSource s.source e).1.reaction = .done) :
    (turn link notify s e).face =
      match turnFailure link s e with
      | some error =>
        { e.face.hear [.error error] with handle := e.handle.commit (.fail error) }
      | none => e.face := by
  unfold turn turnFailure
  split
  · rfl
  next alive =>
    have read := readSource_face e s.source
    have threads := readSource_threads e s.source
    generalize readSource s.source e = reading at read threads passive
    obtain ⟨r, e'⟩ := reading
    dsimp only at read threads passive ⊢
    have alive : (!e'.threads.contains s) = false := by
      rw [threads]
      exact Bool.eq_false_iff.mpr alive
    have isOpen : e'.isOpen = e.isOpen := congrArg Face.isOpen read
    -- Whatever fails, the thread is ended first, which the face does not show.
    have failed {e'' : Engine} (same : e''.face = e.face) (error : RecognitionError) :
        (fail notify error (e''.endThread s)).face =
          { e.face.hear [.error error] with handle := e.handle.commit (.fail error) } := by
      have ended : (e''.endThread s).face = e.face := same
      have endedHandle : (e''.endThread s).handle = e.handle := congrArg Face.handle ended
      rw [fail_face telling, ended, endedHandle]
    rw [passive]
    simp only [react]
    cases r.outcome with
    | error error => exact failed read error
    | ok piece =>
      obtain ⟨status, bytes⟩ := piece
      simp only [alive, Bool.false_eq_true, if_false]
      cases packet? status bytes with
      | none => exact read
      | some frame =>
        have sent := send_face link e' frame
        have failure := send_fst link frame e'
        rw [isOpen] at failure
        simp only [Option.bind_some, ← failure]
        generalize send link frame e' = answer at sent
        obtain ⟨failure, e''⟩ := answer
        have same : e''.face = e.face := sent.trans read
        cases failure with
        | some error => exact failed same error
        | none =>
          dsimp only
          split
          · exact same
          · exact same

end Operations

end Engine

end SpeechClient
