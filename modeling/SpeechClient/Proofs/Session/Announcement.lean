import SpeechClient.Proofs.Session.Guard

/-!
# Failures are announced

A failure reaches the caller by the return of the operation that failed, or it is recorded and goes
out with the next wait.  In both ways the listeners have heard of it before: of one that was
recorded since the recognition began, or since the outcome of the one before was taken or closed
away, and of one that is returned while the operation lasts.

- `Entry.begins`, `Entry.clears`: what comes before a recorded failure.
- `Engine.Moves.heard_of_error`: what is recorded in an operation is told in it.
- `Engine.announced`: no failure reaches the caller before every listener has heard of it.
-/

namespace SpeechClient

open Wire

namespace Entry

/-- What is seen first of a recognition: the connection is opened for it, or its first request goes
out or is refused. -/
def begins : Entry → Bool
  | seen (.recognize _ _) (.opened _) => true
  | seen (.recognize _ _) (.sent frame) | seen (.recognize _ _) (.sendFailed frame) =>
    frame.method? = some .createSession || frame.method? = some .startRecognition
  | _ => false

/-- Failures that were recorded before this are gone. -/
def clears (autoClose : Bool) (entry : Entry) : Bool :=
  entry.begins || entry = taken || entry.closesAtRest autoClose

def tells (listener : Nat) (error : RecognitionError) : Entry → Bool
  | seen _ (.notified i (.error e)) => i = listener && e = error
  | _ => false

theorem clears_seen {autoClose : Bool} {during : Operation} {o : Observation} :
    (seen during o).clears autoClose = (seen during o).begins := by
  simp [clears, closesAtRest]

theorem frees_of_clears {autoClose : Bool} {entry : Entry} (clears : entry.clears autoClose = true)
    (begins : entry.begins = false) : entry.frees autoClose = true := by
  simp only [Entry.clears, begins, Bool.false_or, Bool.or_eq_true] at clears
  unfold frees
  cases clears with
  | inl taken => rw [taken, Bool.true_or]
  | inr closed => rw [closes_of_closesAtRest closed, Bool.or_true]

end Entry

namespace Engine

variable {ep : Episode} {e e' : Engine} {during : Operation}

/-! ## What is recorded is told -/

theorem Move.heard_of_error (move : Move ep e e') {error : RecognitionError}
    (failed : e'.handle.error = some error) :
    e.handle.error = some error ∨ e.Heard ep.start (.error error) := by
  cases move with
  | @recorded _ outcome _ announced =>
    cases outcome with
    | fail reported =>
      cases before : e.handle.error with
      | some earlier =>
        -- Of two failures the first is kept.
        have kept : (e.handle.commit (.fail reported)).error = some earlier := by
          simp [Handle.commit, before]
        exact .inl (kept.symm.trans failed)
      | none =>
        have recorded : (e.handle.commit (.fail reported)).error = some reported := by
          simp [Handle.commit, before]
        obtain rfl := Option.some.inj (recorded.symm.trans failed)
        exact .inr announced
    | result result last => cases last <;> exact .inl failed
    | finish discard => cases discard <;> exact .inl failed
  | stopped =>
    rw [stopStreamer_handle] at failed
    exact .inl failed
  | forgotten =>
    rw [forget_handle] at failed
    cases failed
  | begun => cases failed
  | @dispatched link event =>
    obtain ⟨_, _, _, handle⟩ := dispatch_fields link event ep.start
    rw [handle] at failed
    exact .inl failed
  | given =>
    rw [giveOutcome_handle] at failed
    cases failed
  | _ => exact .inl failed

/-- A failure that is recorded on the way was recorded before, or all listeners have heard of it. -/
theorem Moves.heard_of_error (moves : Moves ep ep.start e) {error : RecognitionError}
    (failed : e.handle.error = some error) :
    ep.start.handle.error = some error ∨ e.Heard ep.start (.error error) := by
  revert failed
  -- Along the moves: what was told stays told.
  refine moves.keepOn (P := fun a => a.handle.error = some error →
    ep.start.handle.error = some error ∨ a.Heard ep.start (.error error)) ?_ .inl
  intro a b earlier move before failed
  obtain failed | heard := move.heard_of_error failed
  · exact (before failed).imp_right fun heard => heard.later move.moves
  · exact .inr (heard.later move.moves)

theorem Moves.forall_seen {P : Observation → Prop} (moves : Moves ep e e')
    (observed : ∀ {a o}, Observes ep a o → P o) (closed : ∀ source, P (.audioClosed source)) :
    ∀ o ∈ e'.seenSince e, P o := by
  refine moves.keepOn (P := fun a => ∀ o ∈ a.seenSince e, P o) ?_ (by simp [seenSince])
  intro a b earlier move before o member
  obtain ⟨o', observes, rfl⟩ | ⟨sources, seen⟩ := move.seen
  · rw [seenSince_observe earlier.grows] at member
    cases List.mem_append.mp member with
    | inl member => exact before o member
    | inr member => exact List.mem_singleton.mp member ▸ observed observes
  · rw [seenSince_append earlier.grows seen] at member
    cases List.mem_append.mp member with
    | inl member => exact before o member
    | inr member =>
      obtain ⟨source, -, rfl⟩ := List.mem_map.mp member
      exact closed source

/-- Callbacks begin no recognition. -/
theorem not_begins_of_aside (moves : Moves (aside e) e e') :
    ∀ o ∈ e'.seenSince e, (Entry.seen during o).begins = false := by
  have unbegun {frame : Frame} {taken : Prop} {a : Engine} (sends : Sends (aside e) a taken frame) :
      (frame.method? = some .createSession || frame.method? = some .startRecognition) = false := by
    cases sends with
    | release => simp [Request.releaseSession_method?]
    | cancel => simp [Request.cancelRecognition_method?]
    | timers => simp [Request.startInputTimers_method?]
    | first asked => cases asked
    | follow brought => cases brought
    | audio streamed => cases streamed
  refine moves.forall_seen (fun observes => ?_) fun source => ?_
  · cases observes with
    | opened asked => cases asked
    | sent sends => cases during <;> simp [Entry.begins, unbegun sends]
    | refused sends => cases during <;> simp [Entry.begins, unbegun sends]
    | _ => cases during <;> rfl
  · cases during <;> rfl

/-! ## Operations -/

section Steps

variable {depth : Nat} {outside : Outside} {operation : Operation}

theorem firstRequest_method? {frame : Frame} (requested : e.firstRequest = .ok frame) :
    (frame.method? = some .createSession || frame.method? = some .startRecognition) = true := by
  unfold firstRequest at requested
  split at requested
  · cases requested
    simp [Request.createSession_method?]
  · simp [Request.startRecognition_method? requested]

theorem attempt_begins (link : Link) (isOpen : Bool) {frame : Frame}
    (requested : e.firstRequest = .ok frame) (source : SourceId) (model : LanguageModel) :
    (Entry.seen (.recognize source model) (link.attempt isOpen frame)).begins = true := by
  unfold Link.attempt
  split
  · exact firstRequest_method? requested
  · exact firstRequest_method? requested

/-- What is seen first of a first request. -/
theorem sendFirst_begins (link : Link) {frame : Frame} (requested : e.firstRequest = .ok frame) :
    ∃ o later, (sendFirst link e).2.trace = e.trace ++ o :: later ∧
      ∀ source model, (Entry.seen (.recognize source model) o).begins = true := by
  cases connected : e.isOpen with
  | true =>
    have sent : sendFirst link e = send link frame e := by
      simp only [sendFirst, openConnection, connected, if_true, requested]
    rw [sent, send_snd]
    exact ⟨_, [], rfl, attempt_begins link e.isOpen requested⟩
  | false =>
    have opened : e.trace ++ [.opened e.endpoint] <+: (openConnection link e).2.trace := by
      simp only [openConnection, connected, Bool.false_eq_true, if_false]
      split <;> exact List.prefix_rfl
    have grown : (openConnection link e).2.trace <+: (sendFirst link e).2.trace := by
      unfold sendFirst
      split
      next result => exact ⟨[], by rw [List.append_nil, result]⟩
      next result =>
        rw [result]
        split
        · rw [send_snd]
          exact List.prefix_append _ _
        · exact List.prefix_rfl
    obtain ⟨later, seen⟩ := opened.trans grown
    exact ⟨.opened e.endpoint, later, by simpa using seen.symm, fun _ _ => rfl⟩

/-- A request that is not turned away begins a recognition, and it is accepted, or it fails and the
listeners are told. -/
theorem recognize_begun (depth : Nat) (outside : Outside) (source : SourceId)
    {model : LanguageModel} (usable : model.usable = true) (idle : e.handle.active = false) :
    ∃ begun : Engine, e.trace <+: begun.trace ∧ begun.handle.error = none ∧
      begun.listeners = e.listeners ∧
      (∃ o later, begun.trace = e.trace ++ o :: later ∧
        (Entry.seen (.recognize source model) o).begins = true) ∧
      (e.step depth outside (.recognize source model) = (.reply .done, begun) ∨
        ∃ error, e.step depth outside (.recognize source model) = (.reply (.failed error),
          (notifyAll outside depth (.error error) begun).onHandle fun h =>
            { h.finishRecognition with active := false })) := by
  have face := sendFirst_face outside.toLink (e.onHandle (·.begin source model))
  have unfailed := congrArg (·.handle.error) face
  have listeners := congrArg Face.listeners face
  obtain ⟨frame, requested⟩ := firstRequest_begin e source usable
  obtain ⟨o, later, seen, begins⟩ := sendFirst_begins outside.toLink requested
  refine ⟨_, ⟨_, seen.symm⟩, unfailed, listeners, ⟨o, later, seen, begins source model⟩, ?_⟩
  cases answer : sendFirst outside.toLink (e.onHandle (·.begin source model)) with
  | mk failed reached =>
    cases failed with
    | none => exact .inl (recognize_of_sent usable idle answer)
    | some error => exact .inr ⟨error, recognize_of_unsent usable idle answer⟩

/-- The beginning of a recognition is the first that is seen of the operation. -/
theorem entries_of_recognize (depth : Nat) (outside : Outside) (source : SourceId)
    {model : LanguageModel} (usable : model.usable = true) (idle : e.handle.active = false) :
    ∃ entry more, entry.begins = true ∧ e.entries depth outside (.recognize source model) =
      .began (.recognize source model) :: entry :: more := by
  obtain ⟨begun, -, -, -, ⟨o, later, seen, begins⟩, came⟩ :=
    recognize_begun depth outside source usable idle
  have grown : begun.trace <+: (e.step depth outside (.recognize source model)).2.trace := by
    obtain came | ⟨error, came⟩ := came
    · exact ⟨[], by rw [List.append_nil, came]⟩
    · rw [came]
      have telling : Telling (aside begun) (notifyAll outside depth) :=
        notifyAll_telling outside depth
      exact (telling.moves (.error error) begun List.prefix_rfl).grows
  obtain ⟨more, grown⟩ := grown
  let ep := e.episode depth outside (.recognize source model)
  have since : (e.step depth outside (.recognize source model)).2.seenSince ep.start =
      o :: (later ++ more) := by
    change List.drop e.trace.length _ = _
    rw [← grown, seen]
    simp
  have shape : e.entries depth outside (.recognize source model) =
      .began ep.operation :: .seen ep.operation o ::
        ((later ++ more).map (.seen ep.operation) ++ ep.ending) := by
    rw [entries, Episode.upTo, since]
    rfl
  exact ⟨_, _, begins, shape⟩

theorem begins_of_recognize (depth : Nat) (outside : Outside) (source : SourceId)
    {model : LanguageModel} (usable : model.usable = true) (idle : e.handle.active = false) :
    ∃ entry ∈ e.entries depth outside (.recognize source model), entry.begins = true := by
  obtain ⟨entry, more, begins, entries⟩ := entries_of_recognize depth outside source usable idle
  exact ⟨entry, by simp [entries], begins⟩

theorem not_clears_of_mem_upTo (other : ∀ source model, ep.operation ≠ .recognize source model)
    (autoClose : Bool) {entry : Entry} (member : entry ∈ ep.upTo e) :
    entry.clears autoClose = false := by
  obtain rfl | ⟨o, -, rfl⟩ := Episode.began_or_seen_of_mem_upTo member
  · rfl
  · rw [Entry.clears_seen]
    unfold Entry.begins
    split
    next same => exact absurd (Entry.seen.inj same).1 (other _ _)
    next same => exact absurd (Entry.seen.inj same).1 (other _ _)
    next same => exact absurd (Entry.seen.inj same).1 (other _ _)
    · rfl

theorem not_begins_of_mem_ending {entry : Entry} (member : entry ∈ ep.ending) :
    entry.begins = false := by
  obtain rfl | ⟨rfl, -⟩ := Episode.ended_or_taken_of_mem_ending member
  · rfl
  · rfl

/-- What is recorded has been told since the last time that failures were cleared. -/
def Announces (e : Engine) (log : Chronicle) (autoClose : Bool) : Prop :=
  ∀ error, e.handle.error = some error → ∀ i < e.listeners,
    log.Since (Entry.tells i error) (Entry.clears autoClose)

variable {log : Chronicle}

theorem Announces.step (announces : e.Announces log e.settings.autoClose)
    (other : ∀ source model, operation ≠ .recognize source model) :
    (e.step depth outside operation).2.Announces (log ++ e.entries depth outside operation)
      e.settings.autoClose := by
  intro error failed i bound
  have moves := episode_moves depth outside operation e
  rw [moves.same.2] at bound
  have quiet : ∀ entry ∈ e.entries depth outside operation,
      entry.clears e.settings.autoClose = false := by
    intro entry member
    cases List.mem_append.mp member with
    | inl member => exact not_clears_of_mem_upTo other _ member
    | inr member =>
      -- An operation that ends so has forgotten the failure.
      refine Bool.eq_false_iff.mpr fun clears => ?_
      have frees := Entry.frees_of_clears clears (not_begins_of_mem_ending member)
      obtain forgotten | taken := step_freed member frees
      · rw [forgotten] at failed
        cases failed
      · rw [taken] at failed
        cases failed
  obtain earlier | heard := moves.heard_of_error failed
  · exact (announces error earlier i bound).append quiet
  · have told := heard i (moves.same.2 ▸ bound)
    exact Chronicle.since_of_mem (List.mem_append_left _ (Episode.seen_mem_upTo told))
      (by simp [Entry.tells]) quiet

theorem not_clears_of_mem_ending {source : SourceId} {model : LanguageModel}
    (asked : ep.operation = .recognize source model) (autoClose : Bool) {entry : Entry}
    (member : entry ∈ ep.ending) : entry.clears autoClose = false := by
  obtain rfl | ⟨-, waited, -⟩ := Episode.ended_or_taken_of_mem_ending member
  · rw [asked]
    rfl
  · rw [asked] at waited
    cases waited

/-- What callbacks bring about begins nothing, so what they are told of is not cleared any more. -/
theorem since_of_told {begun told : Engine} {autoClose : Bool} {error : RecognitionError}
    {i : Nat} (grown : ep.start.trace <+: begun.trace) (moves : Moves (aside begun) begun told)
    (heard : .notified i (.error error) ∈ told.seenSince begun)
    (ended : ∀ entry ∈ ep.ending, entry.clears autoClose = false) :
    (log ++ (ep.upTo told ++ ep.ending)).Since (Entry.tells i error) (Entry.clears autoClose) := by
  rw [Episode.upTo_append grown (List.prefix_iff_eq_append.mp moves.grows).symm, List.append_assoc,
    ← List.append_assoc]
  refine Chronicle.since_of_mem (List.mem_append_left _ (List.mem_map_of_mem heard))
    (by simp [Entry.tells]) fun entry member => ?_
  cases List.mem_append.mp member with
  | inl member =>
    obtain ⟨o, seen, rfl⟩ := List.mem_map.mp member
    rw [Entry.clears_seen]
    exact not_begins_of_aside moves o seen
  | inr member => exact ended entry member

theorem Announces.turnedAway (announces : e.Announces log e.settings.autoClose)
    (source : SourceId) {model : LanguageModel}
    (kept : model.usable = false ∨ e.handle.active = true) :
    (e.step depth outside (.recognize source model)).2.Announces
      (log ++ e.entries depth outside (.recognize source model)) e.settings.autoClose := by
  let ep := e.episode depth outside (.recognize source model)
  have unchanged : (e.step depth outside (.recognize source model)).2 = e :=
    congrArg Prod.snd (recognize_turned_away depth outside source kept)
  intro error failed i bound
  rw [unchanged] at failed bound
  refine (announces error failed i bound).append fun entry member => ?_
  cases List.mem_append.mp member with
  | inl member =>
    rw [unchanged] at member
    have opens : entry ∈ ep.opening := Episode.upTo_start ep ▸ member
    rw [Episode.began_of_mem_opening opens]
    rfl
  | inr member => exact not_clears_of_mem_ending rfl _ member

theorem Announces.recognize (announces : e.Announces log e.settings.autoClose)
    (source : SourceId) (model : LanguageModel) :
    (e.step depth outside (.recognize source model)).2.Announces
      (log ++ e.entries depth outside (.recognize source model)) e.settings.autoClose := by
  by_cases kept : model.usable = false ∨ e.handle.active = true
  · exact announces.turnedAway source kept
  · -- The recognition begins without a failure, so whatever is recorded later came after that.
    obtain ⟨usable, idle⟩ : model.usable = true ∧ e.handle.active = false := by simpa using kept
    obtain ⟨begun, grown, unfailed, -, -, came⟩ :=
      recognize_begun depth outside source usable idle
    intro error failed i bound
    obtain came | ⟨reported, came⟩ := came
    · rw [came, unfailed] at failed
      cases failed
    · -- What is recorded now was told by callbacks that heard of the failure.
      let told := notifyAll outside depth (.error reported) begun
      have moves : Moves (aside begun) begun told :=
        (notifyAll_telling outside depth).moves _ begun List.prefix_rfl
      rw [came] at failed bound
      have heard : told.Heard begun (.error error) := by
        obtain earlier | heard := moves.heard_of_error failed
        · exact absurd (earlier.symm.trans unfailed) (by simp)
        · exact heard
      let ep := e.episode depth outside (.recognize source model)
      have seen : ep.upTo (e.step depth outside (.recognize source model)).2 = ep.upTo told :=
        Episode.upTo_of_trace_eq (congrArg (·.2.trace) came)
      rw [entries, seen]
      exact since_of_told grown moves (heard i bound) fun entry member =>
        not_clears_of_mem_ending rfl _ member

theorem recognize_heard {source : SourceId} {model : LanguageModel} {error : RecognitionError}
    (usable : model.usable = true) (idle : e.handle.active = false)
    (failed : (e.step depth outside (.recognize source model)).1 = .reply (.failed error)) :
    ∀ i < e.listeners, .notified i (.error error) ∈
      (e.step depth outside (.recognize source model)).2.seenSince e := by
  obtain ⟨begun, grown, -, listeners, -, came | ⟨reported, came⟩⟩ :=
    recognize_begun depth outside source usable idle
  · rw [came] at failed
    cases failed
  · rw [came] at failed ⊢
    cases failed
    have telling : Telling (aside begun) (notifyAll outside depth) :=
      notifyAll_telling outside depth
    have moves := telling.moves (.error error) begun List.prefix_rfl
    intro i bound
    rw [← listeners, ← moves.same.2] at bound
    have heard := telling.heard (.error error) begun List.prefix_rfl i bound
    have told : Observation.notified i (.error error) ∈
        (notifyAll outside depth (.error error) begun).seenSince e := by
      rw [seenSince_trans grown moves.grows]
      exact List.mem_append_right _ heard
    exact told

theorem cancel_heard {link : Link} {notify : Notify} (telling : Telling (aside e) notify)
    {error : RecognitionError} (failed : (cancel link notify e).1 = some error) :
    ∀ i < e.listeners, .notified i (.error error) ∈ (cancel link notify e).2.seenSince e := by
  have asking : Moves (aside e) e e.markCanceled.stopStreamer :=
    (markCanceled_moves e).tail (.stopped _)
  have sending : Moves (aside e) e
      (send link Request.cancelRecognition e.markCanceled.stopStreamer).2 :=
    asking.trans (send_moves link _ fun _ _ => .cancel)
  unfold cancel at failed ⊢
  dsimp only at failed ⊢
  cases connected : e.isOpen with
  | false =>
    simp only [connected, Bool.false_eq_true, if_false] at failed
    cases failed
  | true =>
    simp only [connected, if_true] at failed ⊢
    generalize send link Request.cancelRecognition e.markCanceled.stopStreamer = result
      at sending failed ⊢
    obtain ⟨failure, sent⟩ := result
    cases failure with
    | none => cases failed
    | some reported =>
      cases failed
      have told := telling.moves (.error error) sent sending.grows
      intro i bound
      rw [← sending.same.2, ← told.same.2] at bound
      exact telling.heard (.error error) sent sending.grows i bound

/-- A wait that does not run into its limit gives what is recorded. -/
theorem error_of_wait {error : RecognitionError}
    (failed : (e.step depth outside .wait).1 = .outcome (.error error))
    (decided : ∀ limit, error ≠ .timeout limit) : e.handle.error = some error := by
  have given := step_wait depth outside e
  split at given
  · rw [failed] at given
    cases recorded : e.handle.error with
    | none => simp [recorded] at given
    | some first => simpa [recorded] using given.symm
  · rw [given] at failed
    cases failed
    exact absurd rfl (decided _)

end Steps

/-! ## Runs -/

theorem Chronicled.announces {first : Engine} {log : Chronicle} (run : Chronicled first e log)
    (new : first.New) : e.Announces log first.settings.autoClose := by
  induction run with
  | start =>
    intro error failed
    rw [new.handle] at failed
    cases failed
  | attach source _ before => exact before
  | @step e log depth outside operation run before =>
    rw [← run.same.1] at before ⊢
    by_cases asked : ∃ source model, operation = .recognize source model
    · obtain ⟨source, model, rfl⟩ := asked
      exact before.recognize source model
    · exact before.step fun source model same => asked ⟨source, model, same⟩

/-- No failure reaches the caller before every listener has heard of it.  A wait that does not run
into its limit gives a failure that every listener was told of since the recognition began, and
since the last outcome was taken or closed away; every request to recognize that is not turned away
begins a recognition.  Such a request, and a cancel, also one from inside a callback, tell every
listener of their failure while they last. -/
theorem announced {first : Engine} {log : Chronicle} (new : first.New)
    (run : Chronicled first e log) (depth : Nat) (outside : Outside) :
    (∀ error, (e.step depth outside .wait).1 = .outcome (.error error) →
      (∀ limit, error ≠ .timeout limit) → ∀ i < e.listeners,
        log.Since (Entry.tells i error) (Entry.clears first.settings.autoClose)) ∧
    (∀ source model, model.usable = true → e.handle.active = false →
      ∃ entry ∈ e.entries depth outside (.recognize source model), entry.begins = true) ∧
    (∀ source model error, model.usable = true → e.handle.active = false →
      (e.step depth outside (.recognize source model)).1 = .reply (.failed error) →
      ∀ i < e.listeners, .notified i (.error error) ∈
        (e.step depth outside (.recognize source model)).2.seenSince e) ∧
    ∀ (a : Engine) error, (cancel outside.toLink (notifyAll outside depth) a).1 = some error →
      ∀ i < a.listeners, .notified i (.error error) ∈
        (cancel outside.toLink (notifyAll outside depth) a).2.seenSince a := by
  refine ⟨?_, ?_, ?_, ?_⟩
  · intro error failed decided i bound
    exact run.announces new error (error_of_wait failed decided) i bound
  · intro source model usable idle
    exact begins_of_recognize depth outside source usable idle
  · intro source model error usable idle failed
    exact recognize_heard usable idle failed
  · intro a error failed
    exact cancel_heard (notifyAll_telling outside depth) failed

/-- The server reports a failure twice, in other words each time, and the wait gives the first. -/
theorem announced_failure :
    let outside : Outside := { Link.reliable with }
    let message (code : String) := Operation.message (utf8 ("ASR 2.4 RESPONSE\r\n" ++
      "Method: START_RECOGNITION\r\nResult: FAILURE\r\nError-Code: " ++ code ++ "\r\n\r\n"))
    let begun := (sample.step 0 outside (.recognize 0 (.ofUri "builtin:slm"))).2
    let failed := (begun.step 0 outside (message "ERR_1")).2
    let again := (failed.step 0 outside (message "ERR_2")).2
    let error := RecognitionError.protocolFailure "START_RECOGNITION" "ERR_1" ""
    ∃ log, Chronicled sample again log ∧
      (again.step 0 outside .wait).1 = .outcome (.error error) ∧
      log.Since (Entry.tells 0 error) (Entry.clears false) := by
  intro outside message begun failed again error
  have run : Chronicled sample again _ :=
    ((Chronicled.start.step 0 outside _).step 0 outside (message "ERR_1")).step 0 outside
      (message "ERR_2")
  have given : (again.step 0 outside .wait).1 = .outcome (.error error) := by decide +kernel
  exact ⟨_, run, given, (announced sample_new run 0 outside).1 error given (by simp [error]) 0
    (by decide +kernel)⟩

end Engine

end SpeechClient
