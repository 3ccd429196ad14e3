import SpeechClient.Proofs.Session.Deeds

/-!
# Replies to a cancel

A reply to a cancel can come late: the recognition may have ended meanwhile, and another one may
have begun.  It only does anything to a recognition that was canceled itself and runs still.

- `Entry.asksCancel`: the server was asked for a cancel.
- `Engine.Chronicled.canceled`: a cancel that waits for its reply is one of the running recognition.
- `Engine.cancelReply_effect`: what the reply does, and when it does nothing.
-/

namespace SpeechClient

open Wire

def Entry.asksCancel : Entry → Bool
  | seen _ (.sent frame) | seen _ (.sendFailed frame) => frame = Request.cancelRecognition
  | _ => false

namespace Handle

/-- An outcome sets no flag. -/
theorem commit_flags (h : Handle) (outcome : Commit) :
    ((h.commit outcome).recognizing = true → h.recognizing = true) ∧
      ((h.commit outcome).cancelPending = true → h.cancelPending = true) := by
  cases outcome with
  | result result last => cases last <;> simp [commit, finishRecognition]
  | fail error => simp [commit, finishRecognition]
  | finish discard => cases discard <;> simp [commit, finishRecognition]

/-- With the status of the reply adopted, nobody awaits speech any more. -/
theorem settleIdle_state (h : Handle) {status : Option SessionState}
    (recognizable : status ≠ some .none) : ((h.adopt status).settleIdle).state =
      if h.state.inRecognition = true ∨ status ≠ none then .idle else h.state := by
  cases status with
  | none =>
    by_cases inRecognition : h.state.inRecognition = true
    · simp [adopt, settleIdle, inRecognition]
    · simp [adopt, settleIdle, inRecognition]
  | some s =>
    cases s with
    | none => exact absurd rfl recognizable
    | _ => simp [adopt, settleIdle, SessionState.inRecognition]

/-- What a confirmed cancel makes of the session. -/
def settled (frame : Frame) (h : Handle) : Handle :=
  (({ h with cancelPending := false }).adopt (Inbound.replyStatus frame)).settleIdle

end Handle

namespace Engine

variable {e e' : Engine} {during : Operation}

/-! ## The flags of the running recognition -/

/-- On the way to a later state no recognition begins, and none is marked as canceled unless the
server is asked for a cancel. -/
structure Continues (during : Operation) (e e' : Engine) : Prop where
  grows : e.trace <+: e'.trace
  running : e'.handle.recognizing = true → e.handle.recognizing = true
  pending : e'.handle.cancelPending = true → e.handle.cancelPending = true ∨
    ∃ o ∈ e'.seenSince e, (Entry.seen during o).asksCancel = true

theorem Continues.trans {e'' : Engine} (first : Continues during e e')
    (second : Continues during e' e'') : Continues during e e'' := by
  refine ⟨first.grows.trans second.grows, fun runs => first.running (second.running runs), ?_⟩
  intro pending
  rw [seenSince_trans first.grows second.grows]
  obtain pending | ⟨o, seen, asks⟩ := second.pending pending
  · obtain pending | ⟨o, seen, asks⟩ := first.pending pending
    · exact .inl pending
    · exact .inr ⟨o, List.mem_append_left _ seen, asks⟩
  · exact .inr ⟨o, List.mem_append_right _ seen, asks⟩

theorem Continues.of_flags (grows : e.trace <+: e'.trace)
    (running : e'.handle.recognizing = true → e.handle.recognizing = true)
    (pending : e'.handle.cancelPending = true → e.handle.cancelPending = true) :
    Continues during e e' :=
  ⟨grows, running, fun marked => .inl (pending marked)⟩

theorem markCanceled_running (e : Engine) :
    e.markCanceled.handle.recognizing = true → e.handle.recognizing = true := by
  unfold markCanceled
  split
  · exact id
  · split
    · exact id
    · exact (e.handle.commit_flags _).1

theorem Deed.continues (during : Operation) (deed : Deed e e') : Continues during e e' := by
  have grows := deed.grows.1
  cases deed with
  | stopped =>
    refine .of_flags grows ?_ ?_
    · rw [stopStreamer_handle]
      exact id
    · rw [stopStreamer_handle]
      exact id
  | recorded outcome =>
    exact .of_flags grows (e.handle.commit_flags outcome).1 (e.handle.commit_flags outcome).2
  | @cancelAsked link =>
    refine ⟨grows, ?_, fun _ => .inr ?_⟩
    · have face := send_face link e.markCanceled.stopStreamer Request.cancelRecognition
      have handle := congrArg (·.handle.recognizing) (face.trans (stopStreamer_face e.markCanceled))
      exact fun runs => markCanceled_running e (handle.symm.trans runs)
    · have asking : e.trace <+: e.markCanceled.stopStreamer.trace :=
        markCanceled_trace e ▸ ⟨_, (stopStreamer_trace e.markCanceled).symm⟩
      unfold send
      split
      · refine ⟨.sendFailed Request.cancelRecognition, ?_, by simp [Entry.asksCancel]⟩
        rw [seenSince_observe asking]
        exact List.mem_append_right _ (List.mem_singleton_self _)
      · refine ⟨.sent Request.cancelRecognition, ?_, by simp [Entry.asksCancel]⟩
        rw [seenSince_observe asking]
        exact List.mem_append_right _ (List.mem_singleton_self _)
  | @closed link =>
    have forgotten : (close link e).handle = {} := close_handle link e
    refine .of_flags grows ?_ ?_
    · intro runs
      have runs : (close link e).handle.recognizing = true := runs
      rw [forgotten] at runs
      cases runs
    · intro pending
      have pending : (close link e).handle.cancelPending = true := pending
      rw [forgotten] at pending
      cases pending
  | dispatched link event =>
    obtain ⟨streamer, handle⟩ := dispatch_handle link event e
    obtain ⟨_, _, fields, asked⟩ := e.handle.transition_fields event e.settings.parameters
    rw [fields] at handle
    refine .of_flags grows ?_ ?_
    · rw [handle]
      exact id
    · rw [handle]
      exact asked
  | _ => exact .of_flags grows id id

theorem Deeds.continues (during : Operation) (deeds : Deeds e e') : Continues during e e' :=
  deeds.keep (P := fun later => Continues during e later)
    (fun deed before => before.trans (deed.continues during)) (.of_flags List.prefix_rfl id id)

section Steps

variable {depth : Nat} {outside : Outside} {operation : Operation}

/-- An operation other than a request to recognize begins no recognition, and marks none as canceled
unless the server is asked for a cancel. -/
theorem step_flags (other : ∀ source model, operation ≠ .recognize source model) :
    ((step depth outside operation e).2.handle.recognizing = true → e.handle.recognizing = true) ∧
      ((step depth outside operation e).2.handle.cancelPending = true →
        e.handle.cancelPending = true ∨
          ∃ entry ∈ e.entries depth outside operation, entry.asksCancel = true) := by
  by_cases freed : ∃ entry ∈ (e.episode depth outside operation).ending,
      entry.frees e.settings.autoClose = true
  · obtain ⟨entry, member, frees⟩ := freed
    obtain forgotten | taken := step_freed member frees
    · simp [forgotten]
    · simp [taken, Handle.takeOutcome, Handle.finishRecognition]
  · have continues := (step_deeds other fun entry member =>
      Bool.eq_false_iff.mpr fun frees => freed ⟨entry, member, frees⟩).continues operation
    refine ⟨continues.running, fun pending => ?_⟩
    obtain pending | ⟨o, seen, asks⟩ := continues.pending pending
    · exact .inl pending
    · have seen : o ∈ (step depth outside operation e).2.seenSince
          (e.episode depth outside operation).start := seen
      exact .inr ⟨_, List.mem_append_left _ (Episode.seen_mem_upTo seen), asks⟩

/-- A recognition that runs after an operation ran before it or was accepted in it. -/
theorem step_running (runs : (step depth outside operation e).2.handle.recognizing = true) :
    e.handle.recognizing = true ∨
      ∃ entry ∈ e.entries depth outside operation, entry.accepts = true := by
  by_cases asked : ∃ source model, operation = .recognize source model
  · obtain ⟨source, model, rfl⟩ := asked
    obtain ⟨-, same⟩ | ⟨-, ⟨accepted, -⟩ | ⟨-, idle⟩⟩ :=
      recognize_cases depth outside source model e
    · exact .inl (same ▸ runs)
    · refine .inr ⟨_, List.mem_append_right _ (Episode.ended_mem_ending _), ?_⟩
      have answer : (e.episode depth outside (.recognize source model)).answer = .reply .done :=
        accepted
      rw [answer]
      rfl
    · rw [idle] at runs
      cases runs
  · exact .inl ((step_flags fun source model same => asked ⟨source, model, same⟩).1 runs)

/-- A cancel that waits for its reply after an operation waited before, or it was asked for in the
operation, and the operation has not accepted another recognition. -/
theorem step_pending (coherent : e.handle.Coherent)
    (coherentAfter : (step depth outside operation e).2.handle.Coherent)
    (pending : (step depth outside operation e).2.handle.cancelPending = true) :
    (∀ entry ∈ e.entries depth outside operation, entry.accepts = false) ∧
      (e.handle.cancelPending = true ∨
        ∃ entry ∈ e.entries depth outside operation, entry.asksCancel = true) := by
  by_cases asked : ∃ source model, operation = .recognize source model
  · obtain ⟨source, model, rfl⟩ := asked
    obtain ⟨refused, same⟩ | ⟨inactive, ⟨-, begun, -⟩ | ⟨-, idle⟩⟩ :=
      recognize_cases depth outside source model e
    · refine ⟨fun entry member => Bool.eq_false_iff.mpr fun accepts => ?_, .inl (same ▸ pending)⟩
      have accepted := (accepted_of_mem_entries member accepts).2
      obtain refused | refused := refused
      · cases refused.symm.trans accepted
      · cases refused.symm.trans accepted
    · -- The one before has ended, so no cancel of it was left to wait for a reply.
      rw [begun] at pending
      have pending : e.handle.cancelPending = true := pending
      rw [(coherent.not_pending_of_idle inactive).2] at pending
      cases pending
    · have runs := coherentAfter.running_of_cancelPending pending
      rw [idle] at runs
      cases runs
  · refine ⟨fun entry member => Bool.eq_false_iff.mpr fun accepts => ?_, ?_⟩
    · exact asked (accepted_of_mem_entries member accepts).1
    · exact (step_flags fun source model same => asked ⟨source, model, same⟩).2 pending

end Steps

/-! ## Runs -/

/-- A cancel that waits for its reply is one of the running recognition. -/
theorem Chronicled.canceled {first : Engine} {log : Chronicle} (run : Chronicled first e log)
    (new : first.New) (pending : e.handle.cancelPending = true) :
    e.handle.recognizing = true ∧ log.Since Entry.asksCancel Entry.accepts := by
  refine ⟨(run.reachable (.new new)).coherent.running_of_cancelPending pending, ?_⟩
  induction run with
  | start => simp [new.handle] at pending
  | attach source _ before => exact before pending
  | @step e log depth outside operation run before =>
    have reached := run.reachable (.new new)
    have coherentAfter := (reached.step depth outside operation).coherent
    obtain ⟨unaccepted, waited | ⟨entry, member, asks⟩⟩ :=
      step_pending reached.coherent coherentAfter pending
    · exact (before waited).append unaccepted
    · exact Chronicle.since_of_mem member asks unaccepted

/-! ## What the reply does -/

section Reply

variable {octets : Bytes} {frame : Frame}

def replyFailure (frame : Frame) : RecognitionError :=
  .protocolFailure (Inbound.headerValue frame Key.method).text
    (Inbound.headerValue frame Key.errorCode).text (Inbound.headerValue frame Key.message).text

/-- The server has canceled the recognition, or has none to cancel. -/
def Confirms (frame : Frame) : Prop :=
  Verdict.ofOctets? (Inbound.headerValue frame Key.result) = some .success ∨
    Verdict.ofOctets? (Inbound.headerValue frame Key.result) = some .invalidAction

theorem transition_cancelReply
    (reply : Method.ofOctets? (Inbound.headerValue frame Key.method) = some .cancelRecognition)
    (h : Handle) (parameters : Option Parameters) :
    h.transition (Inbound.ofResponse frame) parameters =
      h.onCancelReply (Verdict.ofOctets? (Inbound.headerValue frame Key.result))
        (Inbound.replyStatus frame) (replyFailure frame) := by
  simp only [Handle.transition, Inbound.ofResponse, Handle.onResponse, reply, replyFailure]

theorem receive_response (parsed : Frame.parse octets = .ok frame)
    (response : frame.method? = some .response) (link : Link) (notify : Notify) (e : Engine) :
    receive link notify octets e = process link notify (Inbound.ofResponse frame) e := by
  unfold receive
  rw [parsed]
  simp only [Inbound.classify, response]

theorem replyStatus_ne_none (frame : Frame) : Inbound.replyStatus frame ≠ some .none := by
  unfold Inbound.replyStatus
  intro same
  simp [Option.filter_eq_some_iff] at same

variable (reply : Method.ofOctets? (Inbound.headerValue frame Key.method) = some .cancelRecognition)
include reply

theorem process_of_uncanceled (link : Link) (notify : Notify)
    (idle : e.handle.cancelPending = false) :
    process link notify (Inbound.ofResponse frame) e = e := by
  have ignored := transition_cancelReply reply e.handle e.settings.parameters
  simp only [Handle.onCancelReply, idle, Bool.not_false, if_true] at ignored
  unfold process
  rw [ignored]
  rfl

theorem process_of_confirmed (link : Link) (notify : Notify)
    (pending : e.handle.cancelPending = true) (confirmed : Confirms frame) :
    let settled := e.onHandle (Handle.settled frame)
    process link notify (Inbound.ofResponse frame) e =
      (if Inbound.replyStatus frame = some .listening then notify .listening settled
        else settled).onHandle (·.commit (.finish true)) := by
  intro settled
  let status := Inbound.replyStatus frame
  have changed : e.handle.transition (Inbound.ofResponse frame) e.settings.parameters =
      (settled.handle, Handle.adoptionEffects status ++ [.commit (.finish true)]) := by
    rw [transition_cancelReply reply, Handle.onCancelReply, pending]
    obtain success | invalid := confirmed
    · rw [success]
      rfl
    · rw [invalid]
      rfl
  unfold process
  rw [changed]
  by_cases listening : status = some .listening
  · rw [if_pos listening, listening]
    rfl
  · have silent : Handle.adoptionEffects status = [] := by
      cases known : status with
      | none => rfl
      | some s =>
        cases s with
        | listening => exact absurd known listening
        | _ => rfl
    rw [if_neg listening, silent]
    rfl

theorem process_of_unconfirmed (link : Link) (notify : Notify)
    (pending : e.handle.cancelPending = true) (unconfirmed : ¬Confirms frame) :
    process link notify (Inbound.ofResponse frame) e =
      fail notify (replyFailure frame) (e.onHandle fun h => { h with cancelPending := false }) := by
  have changed : e.handle.transition (Inbound.ofResponse frame) e.settings.parameters =
      ({ e.handle with cancelPending := false }, [.commit (.fail (replyFailure frame))]) := by
    rw [transition_cancelReply reply, Handle.onCancelReply, pending]
    cases verdict : Verdict.ofOctets? (Inbound.headerValue frame Key.result) with
    | none => rfl
    | some v =>
      cases v with
      | success => exact absurd (.inl verdict) unconfirmed
      | invalidAction => exact absurd (.inr verdict) unconfirmed
      | failure => rfl
  unfold process
  rw [changed]
  rfl

theorem confirmed_handle (link : Link) {notify : Notify}
    (telling : ∀ n e, (notify n e).face = e.face.hear [n])
    (pending : e.handle.cancelPending = true) (confirmed : Confirms frame) :
    (process link notify (Inbound.ofResponse frame) e).handle =
      (e.handle.settled frame).commit (.finish true) := by
  rw [process_of_confirmed reply link notify pending confirmed]
  split
  · have handle := congrArg Face.handle (telling .listening (e.onHandle (Handle.settled frame)))
    exact congrArg (Handle.commit · (.finish true)) handle
  · rfl

end Reply

/-- A blank handle stays blank until a message comes, a recognition is accepted or a cancel is
refused, if no thread runs. -/
theorem Chronicled.blank_of_quiet {first : Engine} {log : Chronicle}
    (run : Chronicled first e log) (blank : first.handle.Blank) (still : first.threads = [])
    (quiet : ∀ entry ∈ log, entry.revives = false) : e.handle.Blank ∧ e.threads = [] := by
  induction run with
  | start => exact ⟨blank, still⟩
  | attach source _ before => exact before quiet
  | step depth outside operation _ before =>
    obtain ⟨blank, still⟩ := before fun entry member => quiet entry (List.mem_append_left _ member)
    exact step_blank_of_quiet blank still fun entry member =>
      quiet entry (List.mem_append_right _ member)

section Effect

variable {octets : Bytes} {frame : Frame} {depth : Nat} {outside : Outside}
  (parsed : Frame.parse octets = .ok frame) (response : frame.method? = some .response)
  (reply : Method.ofOctets? (Inbound.headerValue frame Key.method) = some .cancelRecognition)
include parsed response reply

/-- A reply is ignored where no cancel waits for it. -/
theorem step_of_uncanceled (idle : e.handle.cancelPending = false) :
    e.step depth outside (.message octets) = (.accepted e.subscribed, e) := by
  simp only [step, receive_response parsed response, process_of_uncanceled reply _ _ idle]
  cases e.subscribed with
  | true => rfl
  | false => rfl

omit reply in
theorem step_response (subscribed : e.subscribed = true) :
    (e.step depth outside (.message octets)).2 =
      process outside.toLink (notifyAll outside depth) (Inbound.ofResponse frame) e := by
  simp only [step, subscribed, if_true, receive_response parsed response]

end Effect

/-- A reply to a cancel does something only to a recognition that runs, and for which the server was
asked for a cancel after it was accepted; a recognition does not come back to life, so it ran when
the cancel was asked for.  Otherwise all is as it was, and nobody is told.  Where a cancel waits, one
that is confirmed ends the recognition, and its results are gone; one that is not fails the
recognition.  If no listener reacts, the session is idle after a confirmed cancel where the server
listened or says what it does now, and the next wait gives no results.  A later wait gives none
either, if no thread runs, no message comes, no recognition is accepted and no cancel is refused. -/
theorem cancelReply_effect {first : Engine} {log : Chronicle} (new : first.New)
    (run : Chronicled first e log) {octets : Bytes} {frame : Frame}
    (parsed : Frame.parse octets = .ok frame) (response : frame.method? = some .response)
    (reply : Method.ofOctets? (Inbound.headerValue frame Key.method) = some .cancelRecognition)
    (depth : Nat) (outside : Outside) :
    let later := (e.step depth outside (.message octets)).2
    (¬(e.handle.recognizing = true ∧ log.Since Entry.asksCancel Entry.accepts) →
      e.step depth outside (.message octets) = (.accepted e.subscribed, e)) ∧
    (∀ depth outside operation, (e.step depth outside operation).2.handle.recognizing = true →
      e.handle.recognizing = true ∨
        ∃ entry ∈ e.entries depth outside operation, entry.accepts = true) ∧
    (e.handle.cancelPending = true → e.subscribed = true →
      (Confirms frame → later.handle.results = [] ∧ later.handle.recognizing = false ∧
        later.handle.cancelPending = false) ∧
      (¬Confirms frame → ∃ told : Handle, later.handle = told.commit (.fail (replyFailure frame))) ∧
      ((∀ i n, outside.reaction i n = .done) →
        (Confirms frame →
          later.handle.state = (if e.handle.state.inRecognition = true ∨
            Inbound.replyStatus frame ≠ none then .idle else e.handle.state) ∧
          (∀ depth outside, (later.step depth outside .wait).1 = .outcome (.ok [])) ∧
          (later.threads = [] → ∀ further more, Chronicled later further more →
            (∀ entry ∈ more, entry.revives = false) →
            ∀ depth outside, (further.step depth outside .wait).1 = .outcome (.ok []))) ∧
        (¬Confirms frame →
          later.handle = { e.handle with
            recognizing := false, cancelPending := false, error := some (replyFailure frame) } ∧
          ∀ i < e.listeners, later.told i = e.told i ++ [.error (replyFailure frame)]))) := by
  intro later
  refine ⟨?_, fun depth outside operation => step_running, fun pending subscribed => ?_⟩
  · intro uncanceled
    refine step_of_uncanceled parsed response reply (Bool.eq_false_iff.mpr fun pending => ?_)
    exact uncanceled (run.canceled new pending)
  have processed : later = _ := step_response parsed response subscribed
  refine ⟨fun confirmed => ?_, fun unconfirmed => ?_, fun observing => ?_⟩
  · have ended : later = _ := processed.trans
      (process_of_confirmed reply outside.toLink _ pending confirmed)
    rw [ended]
    exact ⟨rfl, rfl, rfl⟩
  · have failed : later = _ := processed.trans
      (process_of_unconfirmed reply outside.toLink _ pending unconfirmed)
    rw [failed]
    exact ⟨_, rfl⟩
  · have telling := notifyAll_face observing depth
    have coherent := (run.reachable (.new new)).coherent
    have unfailed : e.handle.error = none :=
      coherent.error (coherent.running_of_cancelPending pending)
    constructor
    · intro confirmed
      have handle : later.handle = (e.handle.settled frame).commit (.finish true) := by
        rw [processed]
        exact confirmed_handle reply outside.toLink telling pending confirmed
      have blank : later.handle.Blank := by
        obtain ⟨s, settled⟩ := Handle.adopt_settleIdle_fields
          { e.handle with cancelPending := false } (Inbound.replyStatus frame)
        rw [handle, Handle.settled, settled]
        exact ⟨rfl, unfailed, rfl⟩
      refine ⟨?_, ?_, ?_⟩
      · rw [handle, Handle.commit_state]
        exact Handle.settleIdle_state _ (replyStatus_ne_none frame)
      · intro depth outside
        exact congrArg Answer.outcome (waitResult_of_blank blank outside.toLink)
      · intro still further more continued quiet depth outside
        have blank := (continued.blank_of_quiet blank still quiet).1
        exact congrArg Answer.outcome (waitResult_of_blank blank outside.toLink)
    · intro unconfirmed
      have face : later.face = _ := (congrArg face (processed.trans
        (process_of_unconfirmed reply outside.toLink _ pending unconfirmed))).trans
          (fail_face telling _ _)
      refine ⟨?_, fun i bound => ?_⟩
      · have handle := congrArg Face.handle face
        have failed : ({ e.handle with cancelPending := false }).commit
              (.fail (replyFailure frame)) = { e.handle with
            recognizing := false, cancelPending := false, error := some (replyFailure frame) } := by
          simp [Handle.commit, Handle.finishRecognition, unfailed]
        exact handle.trans failed
      · have told := congrFun (congrArg Face.told face) i
        refine told.trans ?_
        exact if_pos bound

/-- The server confirms a cancel and says nothing of the session, or it refuses the cancel; before
the cancel, the reply changes nothing. -/
theorem cancelReply_effect_either_way :
    let outside : Outside := { Link.reliable with }
    let octets (result : String) := utf8 ("ASR 2.4 RESPONSE\r\nMethod: CANCEL_RECOGNITION\r\n" ++
      "Result: " ++ result ++ "\r\nError-Code: E1\r\n\r\n")
    let begun := (sample.step 0 outside (.recognize 0 (.ofUri "builtin:slm"))).2
    let canceled := (begun.step 0 outside .cancel).2
    let confirmed := (canceled.step 0 outside (.message (octets "SUCCESS"))).2
    let refused := (canceled.step 0 outside (.message (octets "FAILURE"))).2
    confirmed.handle.recognizing = false ∧
      (confirmed.step 0 outside .wait).1 = .outcome (.ok []) ∧
      refused.handle.recognizing = false ∧
      refused.handle.error = some (.protocolFailure "CANCEL_RECOGNITION" "E1" "") ∧
      begun.step 0 outside (.message (octets "SUCCESS")) = (.accepted true, begun) := by
  intro outside octets begun canceled confirmed refused
  have started : Chronicled sample begun _ := Chronicled.start.step 0 outside _
  have run : Chronicled sample canceled _ := started.step 0 outside .cancel
  let frame (result : String) : Frame :=
    (((Frame.new protocolVersion (utf8 "RESPONSE")).setHeader Key.method
      (utf8 "CANCEL_RECOGNITION")).setHeader Key.result (utf8 result)).setHeader Key.errorCode
        (utf8 "E1")
  have success : Frame.parse (octets "SUCCESS") = .ok (frame "SUCCESS") := by decide +kernel
  have failure : Frame.parse (octets "FAILURE") = .ok (frame "FAILURE") := by decide +kernel
  have pending : canceled.handle.cancelPending = true := by decide +kernel
  have subscribed : canceled.subscribed = true := by decide +kernel
  have confirms : Confirms (frame "SUCCESS") := .inl (by decide +kernel)
  have refuses : ¬Confirms (frame "FAILURE") := by
    unfold Confirms
    decide +kernel
  obtain ⟨-, -, answered⟩ := cancelReply_effect sample_new run success (by decide +kernel)
    (by decide +kernel) 0 outside
  obtain ⟨ended, -, observed⟩ := answered pending subscribed
  obtain ⟨-, -, answered⟩ := cancelReply_effect sample_new run failure (by decide +kernel)
    (by decide +kernel) 0 outside
  obtain ⟨-, -, unconfirmed⟩ := answered pending subscribed
  obtain ⟨failed, -⟩ := (unconfirmed fun _ _ => rfl).2 refuses
  obtain ⟨ignored, -⟩ := cancelReply_effect sample_new started success (by decide +kernel)
    (by decide +kernel) 0 outside
  refine ⟨(ended confirms).2.1, ?_, ?_, ?_, ?_⟩
  · exact ((observed fun _ _ => rfl).1 confirms).2.1 0 outside
  · exact congrArg Handle.recognizing failed
  · exact (congrArg Handle.error failed).trans (by decide +kernel)
  · exact ignored (by decide +kernel)

end Engine

end SpeechClient
