import SpeechClient.Proofs.Session.Closing
import SpeechClient.Proofs.Session.Turns

/-!
# Deeds of a recognizer

Moves are the smallest steps, and some of them belong together: a close is followed by the news that
it has come to its end, and a cancel is marked just before the server is asked for it.  A deed is
taken as a whole, so what a close or a cancel leaves behind is known of it together with what can be
seen of it.

- `Engine.Deed`, `Engine.Deeds`: one deed, and deeds in a row.
- `Engine.notifyAll_deeds`: callbacks are deeds.
- `Engine.step_deeds`: so are operations, unless the caller closes, takes the outcome or begins.
-/

namespace SpeechClient

/-- The next recognition may begin: the outcome was taken, or a close has come to its end. -/
def Entry.frees (autoClose : Bool) (entry : Entry) : Bool :=
  entry = taken || entry.closes autoClose

namespace Engine

/-- Something that is done as a whole. -/
inductive Deed : Engine → Engine → Prop where
  | observed (o : Observation) (e : Engine) : Deed e (e.observe o)
  | stopped (e : Engine) : Deed e e.stopStreamer
  | recorded (outcome : Commit) (e : Engine) : Deed e (e.onHandle (·.commit outcome))
  /-- The server is asked for a cancel, which is marked if a recognition runs. -/
  | cancelAsked {link : Link} {e : Engine} : e.isOpen = true →
      Deed e (send link Request.cancelRecognition e.markCanceled.stopStreamer).2
  /-- A close has come to its end, and the callback that asked for it hears of that. -/
  | closed {link : Link} {e : Engine} {action : Action} {reply : Reply} :
      (∀ during, (Entry.seen during (.acted action reply)).closes e.settings.autoClose = true) →
      Deed e ((close link e).observe (.acted action reply))
  | dispatched (link : Link) (event : Inbound) (e : Engine) : Deed e (e.dispatch link event)
  | sessionLost (e : Engine) : Deed e (e.onHandle fun h => { h with state := .none })
  | disconnected (e : Engine) : Deed e { e with isOpen := false }
  | audioHandled (sources : List AudioSource) (e : Engine) : Deed e { e with sources }
  | threadEnded (s : Streamer) (e : Engine) : Deed e (e.endThread s)

abbrev Deeds : Engine → Engine → Prop := Relation.ReflTransGen Deed

variable {e e' : Engine}

theorem Deed.deeds (deed : Deed e e') : Deeds e e' :=
  Relation.ReflTransGen.single deed

theorem Deeds.of_eq (same : e' = e) : Deeds e e' :=
  same ▸ .refl

theorem markCanceled_trace (e : Engine) : e.markCanceled.trace = e.trace := by
  unfold markCanceled
  split
  · rfl
  · split
    · rfl
    · rfl

/-- A deed keeps what was seen and the settings. -/
theorem Deed.grows (deed : Deed e e') : e.trace <+: e'.trace ∧ e'.settings = e.settings := by
  have sending (link : Link) (frame : Wire.Frame) (e : Engine) :
      e.trace <+: (send link frame e).2.trace ∧ (send link frame e).2.settings = e.settings := by
    rw [send_snd]
    exact ⟨List.prefix_append _ _, rfl⟩
  have stopping (e : Engine) :
      e.trace <+: e.stopStreamer.trace ∧ e.stopStreamer.settings = e.settings :=
    ⟨⟨_, (stopStreamer_trace e).symm⟩, congrArg Face.settings (stopStreamer_face e)⟩
  cases deed with
  | observed => exact ⟨List.prefix_append _ _, rfl⟩
  | stopped => exact stopping e
  | @cancelAsked link =>
    have markedSettings := congrArg Face.settings (markCanceled_face e)
    obtain ⟨stopGrows, stopSettings⟩ := stopping e.markCanceled
    obtain ⟨grows, settings⟩ :=
      sending link Request.cancelRecognition e.markCanceled.stopStreamer
    exact ⟨markCanceled_trace e ▸ stopGrows.trans grows,
      (settings.trans stopSettings).trans markedSettings⟩
  | @closed link =>
    have moves : Moves ⟨.close, .reply .done, e⟩ e (close link e) := close_moves link e
    exact ⟨moves.grows.trans (List.prefix_append _ _), moves.same.1⟩
  | dispatched link event =>
    obtain ⟨sources, seen⟩ := startStreams_trace link
      (e.handle.transition event e.settings.parameters).2
      (e.onHandle fun h => (h.transition event e.settings.parameters).1)
    obtain ⟨streamer, face⟩ := startStreams_face link
      (e.onHandle fun h => (h.transition event e.settings.parameters).1)
      (e.handle.transition event e.settings.parameters).2
    exact ⟨⟨_, seen.symm⟩, congrArg Face.settings face⟩
  | _ => exact ⟨List.prefix_rfl, rfl⟩

/-- What every deed keeps, deeds in a row keep. -/
theorem Deeds.keep {P : Engine → Prop} (one : ∀ {e e'}, Deed e e' → P e → P e')
    (deeds : Deeds e e') (before : P e) : P e' := by
  induction deeds with
  | refl => exact before
  | tail _ deed kept => exact one deed kept

theorem Deeds.grows (deeds : Deeds e e') : e.trace <+: e'.trace ∧ e'.settings = e.settings :=
  deeds.keep (P := fun later => e.trace <+: later.trace ∧ later.settings = e.settings)
    (fun deed (before : _ <+: _ ∧ _) =>
      ⟨before.1.trans deed.grows.1, deed.grows.2.trans before.2⟩) ⟨List.prefix_rfl, rfl⟩

/-! ## Callbacks -/

section Callbacks

variable (link : Link) {notify : Notify}

theorem send_deeds (frame : Wire.Frame) (e : Engine) : Deeds e (send link frame e).2 := by
  unfold send
  split
  · exact (Deed.observed _ e).deeds
  · exact (Deed.observed _ e).deeds

variable (telling : ∀ n e, Deeds e (notify n e))
include telling

theorem fail_deeds (error : RecognitionError) (e : Engine) : Deeds e (fail notify error e) :=
  (telling (.error error) e).tail (.recorded (.fail error) _)

/-- A cancel is deeds, up to the close that the settings may ask for. -/
theorem cancel_deeds (e : Engine) :
    (∃ asked, Deeds e asked ∧ cancel link notify e = (none, autoClose link asked)) ∨
      ∃ error failed, Deeds e failed ∧ cancel link notify e = (some error, failed) := by
  unfold cancel
  dsimp only
  cases isOpen : e.isOpen with
  | false =>
    have marking : Deeds e e.markCanceled := by
      unfold markCanceled
      split
      · exact .refl
      · rw [isOpen]
        exact (Deed.recorded _ e).deeds
    exact .inl ⟨_, marking.tail (.stopped _), rfl⟩
  | true =>
    have asking : Deeds e (send link Request.cancelRecognition e.markCanceled.stopStreamer).2 :=
      (Deed.cancelAsked isOpen).deeds
    simp only [if_true]
    generalize send link Request.cancelRecognition e.markCanceled.stopStreamer = answer at asking
    obtain ⟨failure, asked⟩ := answer
    cases failure with
    | some error => exact .inr ⟨error, _, asking.trans (fail_deeds telling error asked), rfl⟩
    | none => exact .inl ⟨asked, asking, rfl⟩

theorem act_deeds (action : Action) (e : Engine) : Deeds e (act link notify action e).2 := by
  cases action with
  | close => exact (Deed.closed fun _ => rfl).deeds
  | cancel =>
    have acted : (act link notify .cancel e).2 = (cancel link notify e).2.observe
        (.acted .cancel (replyOf (cancel link notify e).1)) := rfl
    rw [acted]
    obtain ⟨asked, before, canceled⟩ | ⟨error, failed, before, canceled⟩ :=
      cancel_deeds link telling e
    · rw [canceled]
      unfold autoClose
      split
      next auto => exact before.tail (.closed fun _ => auto)
      · exact before.tail (.observed _ asked)
    · rw [canceled]
      exact before.tail (.observed _ failed)
  | startTimers => exact (send_deeds link _ e).tail (.observed _ _)
  | status => exact (Deed.observed _ e).deeds

theorem react_deeds (reaction : Reaction) (e : Engine) :
    Deeds e (react link notify reaction e) := by
  induction reaction generalizing e with
  | done => exact .refl
  | act action next after => exact (act_deeds link telling action e).trans (after _ _)

end Callbacks

theorem foldl_deeds {α : Type} {f : Engine → α → Engine} (one : ∀ e a, Deeds e (f e a))
    (list : List α) (e : Engine) : Deeds e (list.foldl f e) := by
  induction list generalizing e with
  | nil => exact .refl
  | cons a rest after => exact (one e a).trans (after _)

theorem notifyAll_deeds (outside : Outside) (depth : Nat) (n : Notification) (e : Engine) :
    Deeds e (notifyAll outside depth n e) := by
  -- On the depth: what callbacks do tells listeners one level down, and at the last nobody acts.
  induction depth generalizing n e with
  | zero => exact foldl_deeds (fun e i => (Deed.observed _ e).deeds) _ e
  | succ depth deeper =>
    exact foldl_deeds (fun e i => (Deed.observed _ e).deeds.trans
      (react_deeds outside.toLink deeper _ _)) _ e

/-! ## Operations -/

section Operations

variable (link : Link) {notify : Notify} (telling : ∀ n e, Deeds e (notify n e))
include telling

theorem perform_deeds (state : List Commit × Engine) (effect : Effect) :
    Deeds state.2 (perform link notify state effect).2 := by
  obtain ⟨commits, e⟩ := state
  cases effect with
  | send frame =>
    have sending := send_deeds link frame e
    simp only [perform]
    split
    next error e' result =>
      rw [result] at sending
      exact sending.trans (telling _ _)
    next e' result =>
      rw [result] at sending
      exact sending
  | notify n => exact telling n e
  | commit outcome =>
    cases outcome with
    | fail error => exact telling _ e
    | result result last => exact .refl
    | finish discard => exact .refl
  | startStreaming source =>
    simp only [perform]
    split
    · exact (Deed.observed _ e).deeds.trans (telling _ _)
    · exact .refl

theorem performAll_deeds (effects : List Effect) (state : List Commit × Engine) :
    Deeds state.2 (effects.foldl (perform link notify) state).2 := by
  induction effects generalizing state with
  | nil => exact .refl
  | cons effect rest after => exact (perform_deeds link telling state effect).trans (after _)

theorem process_deeds (event : Inbound) (e : Engine) :
    Deeds e (process link notify event e) := by
  have recording (outcomes : List Commit) (e : Engine) :
      Deeds e (e.onHandle fun h => (h.record outcomes).2) := by
    simp only [Handle.record_snd]
    induction outcomes generalizing e with
    | nil => exact .refl
    | cons outcome rest after =>
      exact .head (.recorded outcome e) (after (e.onHandle (·.commit outcome)))
  have dispatching : Deeds e (e.dispatch link event) := (Deed.dispatched link event e).deeds
  have performing := performAll_deeds link telling
    (e.handle.transition event e.settings.parameters).2 ([], e.dispatch link event)
  exact (dispatching.trans performing).trans (recording _ _)

theorem connectionClosed_deeds (reason : String) (e : Engine) :
    Deeds e (connectionClosed notify reason e) := by
  unfold connectionClosed
  extract_lets running stopped failed
  have stopping : Deeds e stopped := .head (.sessionLost e) (Deed.stopped _).deeds
  have failing : Deeds e failed := by
    unfold failed
    split
    · exact stopping.trans (fail_deeds telling _ stopped)
    · exact stopping
  exact failing.tail (.disconnected failed)

theorem turn_deeds (s : Streamer) (e : Engine) : Deeds e (turn link notify s e) := by
  have taking : Deeds e (readSource s.source e).2 := by
    unfold readSource
    split
    · exact (Deed.audioHandled _ e).deeds
    · exact .refl
  have reading : Deeds e (e.reading link notify s).2 :=
    taking.trans (react_deeds link telling _ _)
  have ending {sent : Engine} (before : Deeds e sent) (ends : Bool) :
      Deeds e (if ends then sent.endThread s else sent) := by
    split
    · exact before.tail (.threadEnded s sent)
    · exact before
  have advancing : Deeds e (e.advance link notify s) := by
    refine ending ?_ _
    split
    next frame _ => exact reading.trans (send_deeds link frame _)
    · exact reading
  by_cases running : s ∈ e.threads
  · rw [turn_eq running]
    split
    · exact advancing.trans (fail_deeds telling _ _)
    · exact advancing
  · exact .of_eq (turn_of_stopped running)

end Operations

variable {depth : Nat} {outside : Outside} {operation : Operation}

/-- Operations are deeds, unless the caller begins, or the operation ends with an outcome taken or a
close that the caller asked for. -/
theorem step_deeds (other : ∀ source model, operation ≠ .recognize source model)
    (lasting : ∀ entry ∈ (e.episode depth outside operation).ending,
      entry.frees e.settings.autoClose = false) :
    Deeds e (step depth outside operation e).2 := by
  have telling : ∀ n e, Deeds e (notifyAll outside depth n e) := notifyAll_deeds outside depth
  have ended := lasting _ (Episode.ended_mem_ending _)
  cases operation with
  | recognize source model => exact absurd rfl (other source model)
  | wait =>
    cases decided : e.isOpen && e.handle.stillWaiting with
    | true => exact .of_eq (congrArg Prod.snd (waitResult_of_waiting outside.toLink decided))
    | false =>
      have frees := lasting .taken (by simp [Episode.ending, episode, decided])
      cases frees
  | cancel =>
    obtain ⟨asked, before, canceled⟩ | ⟨error, failed, before, canceled⟩ :=
      cancel_deeds outside.toLink telling e
    · have replied : step depth outside .cancel e =
          (.reply .done, autoClose outside.toLink asked) := by simp only [step, canceled, replyOf]
      have lasting : e.settings.autoClose = false := by
        simpa [episode, replied, Entry.frees, Entry.closes, Entry.closesAtRest] using ended
      rw [replied]
      unfold autoClose
      rw [before.grows.2, lasting]
      exact before
    · have replied : step depth outside .cancel e = (.reply (.failed error), failed) := by
        simp only [step, canceled, replyOf]
      rw [replied]
      exact before
  | startTimers => exact send_deeds outside.toLink _ e
  | close => cases ended
  | status => exact .refl
  | write source bytes =>
    simp only [step, write]
    split
    · exact (Deed.audioHandled _ e).deeds
    · exact .refl
  | finish source => exact (Deed.audioHandled _ e).deeds
  | message octets =>
    simp only [step]
    split
    · rw [receive_eq]
      split
      next event _ => exact process_deeds outside.toLink telling event e
      · exact .refl
    · exact .refl
  | lost reason =>
    simp only [step]
    split
    · exact connectionClosed_deeds telling reason e
    · exact (Deed.disconnected e).deeds
  | vanish => exact (Deed.disconnected e).deeds
  | stream s => exact turn_deeds outside.toLink telling s e

/-- Where an outcome was taken or a close came to its end, the operation has forgotten the
recognition. -/
theorem step_freed {entry : Entry} (member : entry ∈ (e.episode depth outside operation).ending)
    (frees : entry.frees e.settings.autoClose = true) :
    (step depth outside operation e).2.handle = {} ∨
      (step depth outside operation e).2.handle = e.handle.takeOutcome := by
  obtain rfl | closes : entry = .taken ∨ entry.closes e.settings.autoClose = true := by
    simpa [Entry.frees] using frees
  · obtain same | ⟨-, waited, decided⟩ := Episode.ended_or_taken_of_mem_ending member
    · cases same
    · obtain rfl : operation = .wait := waited
      have handle := congrArg Face.handle (waitResult_face outside.toLink e decided)
      change (waitResult outside.toLink e).2.handle = _ at handle
      change (waitResult outside.toLink e).2.handle = _ ∨ (waitResult outside.toLink e).2.handle = _
      rw [handle]
      split
      · exact .inl rfl
      · exact .inr rfl
  · exact .inl (step_closed depth outside operation e member closes)

theorem accepted_of_mem_entries {entry : Entry}
    (member : entry ∈ e.entries depth outside operation) (accepts : entry.accepts = true) :
    (∃ source model, operation = .recognize source model) ∧
      (step depth outside operation e).1 = .reply .done := by
  cases List.mem_append.mp member with
  | inl member =>
    obtain rfl | ⟨o, -, rfl⟩ := Episode.began_or_seen_of_mem_upTo member
    · cases accepts
    · cases accepts
  | inr member => exact Episode.asked_of_mem_ending member accepts

end Engine

end SpeechClient
