import SpeechClient.Proofs.Session.Deeds

/-!
# The guard of a recognition

A recognition that was accepted keeps others from beginning until its outcome is taken or a close
has come to its end.  How the recognition itself fares does not matter, and one that was not
accepted keeps nobody out.

- `Engine.Retains`: the guard is kept on the way, as long as no close comes to its end.
- `Engine.step_active_iff`: what an operation does to the guard.
- `Engine.recognize_refused_iff`: when a request to recognize is refused.
-/

namespace SpeechClient

theorem Refusal.external_of_answer (refusal : Refusal) {error : RecognitionError}
    (same : Answer.reply (.failed error) = .reply (.failed refusal.error)) :
    error.external = true := by
  injection same with same
  injection same with same
  exact same ▸ refusal.external

namespace Engine

variable {ep : Episode} {e e' : Engine} {during : Operation}

/-- On the way to a later state the recognition stays active, unless a close comes to its end. -/
structure Retains (during : Operation) (e e' : Engine) : Prop where
  grows : e.trace <+: e'.trace
  settings : e'.settings = e.settings
  active : (∀ o ∈ e'.seenSince e, (Entry.seen during o).closes e.settings.autoClose = false) →
    e.handle.active = true → e'.handle.active = true

theorem Retains.trans {e'' : Engine} (first : Retains during e e')
    (second : Retains during e' e'') : Retains during e e'' := by
  refine ⟨first.grows.trans second.grows, second.settings.trans first.settings, ?_⟩
  intro unclosed active
  rw [seenSince_trans first.grows second.grows] at unclosed
  refine second.active (fun o seen => ?_) (first.active (fun o seen => ?_) active)
  · rw [first.settings]
    exact unclosed o (List.mem_append_right _ seen)
  · exact unclosed o (List.mem_append_left _ seen)

theorem markCanceled_active (e : Engine) : e.markCanceled.handle.active = e.handle.active := by
  unfold markCanceled
  split
  · rfl
  · split
    · rfl
    · exact e.handle.commit_active _

theorem Deed.retains (during : Operation) (deed : Deed e e') : Retains during e e' := by
  refine ⟨deed.grows.1, deed.grows.2, fun unclosed active => ?_⟩
  cases deed with
  | stopped =>
    rw [stopStreamer_handle]
    exact active
  | recorded outcome => exact (e.handle.commit_active outcome).trans active
  | @cancelAsked link =>
    have face := send_face link e.markCanceled.stopStreamer Request.cancelRecognition
    have handle := congrArg (·.handle.active) (face.trans (stopStreamer_face e.markCanceled))
    exact (handle.trans (markCanceled_active e)).trans active
  | @closed link _ action reply closes =>
    -- The end of the close is seen.
    have moves : Moves ⟨.close, .reply .done, e⟩ e (close link e) := close_moves link e
    rw [seenSince_observe moves.grows] at unclosed
    have lasting := unclosed _ (List.mem_append_right _ (List.mem_singleton_self _))
    rw [closes during] at lasting
    cases lasting
  | dispatched link event =>
    obtain ⟨_, _, _, handle⟩ := dispatch_fields link event e
    rw [handle]
    exact active
  | _ => exact active

theorem Deeds.retains (during : Operation) (deeds : Deeds e e') : Retains during e e' :=
  deeds.keep (P := fun later => Retains during e later)
    (fun deed before => before.trans (deed.retains during)) ⟨List.prefix_rfl, rfl, fun _ => id⟩

/-! ## Operations -/

section Steps

variable {depth : Nat} {outside : Outside} {operation : Operation}

/-- Only a request to recognize can set the guard. -/
theorem Move.active (move : Move ep e e')
    (other : ∀ source model, ep.operation ≠ .recognize source model)
    (active : e'.handle.active = true) : e.handle.active = true := by
  cases move with
  | stopped => rwa [stopStreamer_handle] at active
  | forgotten =>
    rw [forget_handle] at active
    cases active
  | recorded => exact (Handle.commit_active _ _).symm.trans active
  | begun asked => exact absurd asked (other _ _)
  | abandoned _ asked => exact absurd asked (other _ _)
  | @dispatched link event =>
    obtain ⟨_, _, _, handle⟩ := dispatch_fields link event ep.start
    rwa [handle] at active
  | given =>
    rw [giveOutcome_handle] at active
    cases active
  | _ => exact active

/-- A guard that is there was there before, and no close has come to its end meanwhile. -/
theorem Moves.active (moves : Moves ep ep.start e)
    (other : ∀ source model, ep.operation ≠ .recognize source model)
    (active : e.handle.active = true) : ep.start.handle.active = true ∧
      ∀ entry ∈ ep.upTo e, entry.frees ep.start.settings.autoClose = false := by
  revert active
  refine moves.keepOn (P := fun a => a.handle.active = true → ep.start.handle.active = true ∧
    ∀ entry ∈ ep.upTo a, entry.frees ep.start.settings.autoClose = false) ?_ ?_
  · intro a b earlier move before active
    obtain ⟨began, lasting⟩ := before (move.active other active)
    refine ⟨began, ?_⟩
    obtain ⟨o, observes, rfl, seen⟩ | ⟨sources, seen⟩ := Episode.upTo_of_move earlier move
    · rw [seen]
      intro entry member
      cases List.mem_append.mp member with
      | inl member => exact lasting entry member
      | inr member =>
        obtain rfl := List.mem_singleton.mp member
        refine Bool.eq_false_iff.mpr fun closes => ?_
        change (Entry.seen ep.operation o).closes ep.start.settings.autoClose = true at closes
        rw [← earlier.same.1] at closes
        have forgotten : a.handle.active = false := by rw [observes.forgotten closes]
        exact Bool.eq_false_iff.mp forgotten active
    · rw [seen]
      intro entry member
      cases List.mem_append.mp member with
      | inl member => exact lasting entry member
      | inr member =>
        obtain ⟨source, -, rfl⟩ := List.mem_map.mp member
        rfl
  · intro active
    refine ⟨active, fun entry member => ?_⟩
    rw [Episode.upTo_start] at member
    rw [Episode.began_of_mem_opening member]
    rfl

theorem not_active_of_frees {entry : Entry}
    (member : entry ∈ (e.episode depth outside operation).ending)
    (frees : entry.frees e.settings.autoClose = true) :
    (step depth outside operation e).2.handle.active = false := by
  obtain forgotten | taken := step_freed member frees
  · rw [forgotten]
  · rw [taken]
    rfl

/-- An operation other than a request to recognize keeps the guard exactly if in it neither the
outcome is taken nor a close comes to its end. -/
theorem step_active_iff (other : ∀ source model, operation ≠ .recognize source model) :
    (step depth outside operation e).2.handle.active = true ↔ e.handle.active = true ∧
      ∀ entry ∈ e.entries depth outside operation, entry.frees e.settings.autoClose = false := by
  constructor
  · intro active
    obtain ⟨before, lasting⟩ := (episode_moves depth outside operation e).active other active
    refine ⟨before, fun entry member => ?_⟩
    cases List.mem_append.mp member with
    | inl member => exact lasting entry member
    | inr member =>
      refine Bool.eq_false_iff.mpr fun frees => ?_
      exact Bool.eq_false_iff.mp (not_active_of_frees member frees) active
  · rintro ⟨before, lasting⟩
    have retains := (step_deeds other fun entry member =>
      lasting entry (List.mem_append_right _ member)).retains operation
    refine retains.active (fun o seen => ?_) before
    have seen : o ∈ (step depth outside operation e).2.seenSince
        (e.episode depth outside operation).start := seen
    have kept := lasting _ (List.mem_append_left _ (Episode.seen_mem_upTo seen))
    exact (Bool.or_eq_false_iff.mp kept).2

section Unguarded

variable {source : SourceId} {model : LanguageModel} {reached : Engine}
  (usable : model.usable = true) (idle : e.handle.active = false)
include usable idle

theorem recognize_of_sent
    (sent : sendFirst outside.toLink (e.onHandle (·.begin source model)) = (none, reached)) :
    step depth outside (.recognize source model) e = (.reply .done, reached) := by
  simp only [step, recognize_of_idle outside.toLink (notifyAll outside depth) source usable idle,
    sent, replyOf]

theorem recognize_of_unsent {error : RecognitionError}
    (unsent : sendFirst outside.toLink (e.onHandle (·.begin source model)) =
      (some error, reached)) :
    step depth outside (.recognize source model) e = (.reply (.failed error),
      (notifyAll outside depth (.error error) reached).onHandle fun h =>
        { h.finishRecognition with active := false }) := by
  simp only [step, recognize_of_idle outside.toLink (notifyAll outside depth) source usable idle,
    unsent, replyOf]

end Unguarded

/-- Without a guard a request to recognize is accepted, which sets the guard, or it fails for want
of a connection and leaves none. -/
theorem recognize_unguarded (depth : Nat) (outside : Outside) (source : SourceId)
    {model : LanguageModel} (usable : model.usable = true) (idle : e.handle.active = false) :
    let result := step depth outside (.recognize source model) e
    (result.1 = .reply .done ∧ result.2.handle.active = true) ∨
      (∃ refusal : Refusal, result.1 = .reply (.failed refusal.error)) ∧
        result.2.handle.active = false := by
  let begun := e.onHandle (·.begin source model)
  have failure := sendFirst_fst outside.toLink begun
  have face := sendFirst_face outside.toLink begun
  cases answer : sendFirst outside.toLink begun with
  | mk failed reached =>
    rw [answer] at failure face
    cases failed with
    | none =>
      rw [recognize_of_sent usable idle answer]
      exact .inl ⟨rfl, congrArg (·.handle.active) face⟩
    | some error =>
      obtain ⟨refusal, rfl⟩ := startFailure_refusal usable failure.symm
      rw [recognize_of_unsent usable idle answer]
      exact .inr ⟨⟨refusal, rfl⟩, rfl⟩

theorem recognize_turned_away (depth : Nat) (outside : Outside) (source : SourceId)
    {model : LanguageModel} (kept : model.usable = false ∨ e.handle.active = true) :
    step depth outside (.recognize source model) e = (.reply (.failed
      (if model.usable then .activeRecognition else .invalidLanguageModel)), e) := by
  cases usable : model.usable with
  | false => simp [step, recognize_of_unusable outside.toLink _ source e usable, replyOf]
  | true =>
    have active : e.handle.active = true := by simpa [usable] using kept
    simp [step, recognize_of_active outside.toLink _ source usable active, replyOf]

/-- A request to recognize that failed for want of a connection leaves no guard. -/
theorem recognize_failed {source : SourceId} {model : LanguageModel} {refusal : Refusal}
    (failed : (step depth outside (.recognize source model) e).1 =
      .reply (.failed refusal.error)) :
    (step depth outside (.recognize source model) e).2.handle.active = false := by
  by_cases kept : model.usable = false ∨ e.handle.active = true
  · rw [recognize_turned_away depth outside source kept] at failed
    cases usable : model.usable with
    | false =>
      rw [usable] at failed
      cases refusal.external_of_answer failed
    | true =>
      rw [usable] at failed
      cases refusal.external_of_answer failed
  · obtain ⟨usable, idle⟩ : model.usable = true ∧ e.handle.active = false := by simpa using kept
    obtain ⟨accepted, -⟩ | ⟨-, inactive⟩ := recognize_unguarded depth outside source usable idle
    · rw [accepted] at failed
      cases failed
    · exact inactive

theorem recognize_refused_iff_active (depth : Nat) (outside : Outside) (source : SourceId)
    {model : LanguageModel} (usable : model.usable = true) :
    (step depth outside (.recognize source model) e).1 =
      .reply (.failed .activeRecognition) ↔ e.handle.active = true := by
  constructor
  · intro refused
    by_contra idle
    obtain ⟨accepted, -⟩ | ⟨⟨refusal, failed⟩, -⟩ :=
      recognize_unguarded depth outside source usable (Bool.eq_false_iff.mpr idle)
    · rw [accepted] at refused
      cases refused
    · rw [failed] at refused
      cases refusal.external_of_answer refused.symm
  · intro active
    simp only [step, recognize_of_active outside.toLink _ source usable active, replyOf]

end Steps

/-! ## Runs -/

/-- Whether others are kept out is decided anew by a request that is not turned away. -/
theorem step_recognize_active_iff (depth : Nat) (outside : Outside) (source : SourceId)
    (model : LanguageModel) {log : Chronicle} {autoClose : Bool}
    (before : e.handle.active = true ↔ log.Since Entry.accepts (Entry.frees autoClose)) :
    (step depth outside (.recognize source model) e).2.handle.active = true ↔
      Chronicle.Since Entry.accepts (Entry.frees autoClose)
        (log ++ e.entries depth outside (.recognize source model)) := by
  have unaccepted {error : RecognitionError}
      (failed : (step depth outside (.recognize source model) e).1 = .reply (.failed error)) :
      ∀ entry ∈ e.entries depth outside (.recognize source model), entry.accepts = false := by
    intro entry member
    refine Bool.eq_false_iff.mpr fun accepts => ?_
    have accepted := (accepted_of_mem_entries member accepts).2
    rw [failed] at accepted
    cases accepted
  by_cases kept : model.usable = false ∨ e.handle.active = true
  · have turnedAway := recognize_turned_away depth outside source kept
    have quiet : ∀ entry ∈ e.entries depth outside (.recognize source model),
        entry.frees autoClose = false := by
      intro entry member
      have member : entry ∈ [Entry.began (.recognize source model),
          .ended (.recognize source model) (.reply (.failed
            (if model.usable then .activeRecognition else .invalidLanguageModel)))] := by
        simpa [entries, Episode.upTo, Episode.opening, Episode.ending, episode, turnedAway,
          seenSince_self] using member
      cases List.mem_cons.mp member with
      | inl began => exact began ▸ rfl
      | inr ended => exact List.mem_singleton.mp ended ▸ rfl
    rw [turnedAway, before]
    refine ⟨fun since => since.append quiet, fun since => (since.of_append ?_).1⟩
    exact unaccepted (congrArg Prod.fst turnedAway)
  · obtain ⟨usable, idle⟩ : model.usable = true ∧ e.handle.active = false := by simpa using kept
    obtain ⟨accepted, active⟩ | ⟨⟨reason, failed⟩, inactive⟩ :=
      recognize_unguarded depth outside source usable idle
    · refine ⟨fun _ => ?_, fun _ => active⟩
      have ending : (e.episode depth outside (.recognize source model)).ending =
          [.ended (.recognize source model) (.reply .done)] := by
        simp [Episode.ending, episode, accepted]
      rw [entries, ending, ← List.append_assoc, Chronicle.since_concat]
      exact .inl rfl
    · have unguarded : ¬log.Since Entry.accepts (Entry.frees autoClose) := by
        rw [← before, idle]
        simp
      rw [inactive]
      refine ⟨fun active => absurd active (by simp), fun since => ?_⟩
      exact absurd (since.of_append (unaccepted failed)).1 unguarded

theorem Chronicled.active_iff_of_idle {first : Engine} {log : Chronicle}
    (run : Chronicled first e log) (idle : first.handle.active = false) :
    e.handle.active = true ↔
      log.Since Entry.accepts (Entry.frees first.settings.autoClose) := by
  induction run with
  | start => simp [idle, Chronicle.not_since_nil]
  | attach source _ before => exact before
  | @step e log depth outside operation run before =>
    by_cases asked : ∃ source model, operation = .recognize source model
    · obtain ⟨source, model, rfl⟩ := asked
      exact step_recognize_active_iff depth outside source model before
    · have other : ∀ source model, operation ≠ .recognize source model :=
        fun source model same => asked ⟨source, model, same⟩
      have unaccepted : ∀ entry ∈ e.entries depth outside operation, entry.accepts = false := by
        intro entry member
        exact Bool.eq_false_iff.mpr fun accepts => asked (accepted_of_mem_entries member accepts).1
      rw [step_active_iff other, before, run.same.1]
      exact ⟨fun both => both.1.append both.2, fun since => since.of_append unaccepted⟩

theorem Chronicled.active_iff {first : Engine} {log : Chronicle} (run : Chronicled first e log)
    (new : first.New) : e.handle.active = true ↔
      log.Since Entry.accepts (Entry.frees first.settings.autoClose) :=
  run.active_iff_of_idle (by rw [new.handle])

/-- Without a guard there is none until a recognition is accepted. -/
theorem Chronicled.idle_of_unaccepted {first : Engine} {log : Chronicle}
    (run : Chronicled first e log) (idle : first.handle.active = false)
    (unaccepted : ∀ entry ∈ log, entry.accepts = false) : e.handle.active = false := by
  refine Bool.eq_false_iff.mpr fun active => ?_
  obtain ⟨before, entry, after, rfl, accepts, -⟩ := (run.active_iff_of_idle idle).mp active
  rw [unaccepted entry (by simp)] at accepts
  cases accepts

theorem waited_of_taken {depth : Nat} {outside : Outside} {operation : Operation}
    (taken : .taken ∈ e.entries depth outside operation) :
    operation = .wait ∧ (e.isOpen && e.handle.stillWaiting) = false := by
  cases List.mem_append.mp taken with
  | inl taken =>
    obtain same | ⟨o, -, same⟩ := Episode.began_or_seen_of_mem_upTo taken
    · cases same
    · cases same
  | inr taken =>
    obtain same | ⟨-, waited, decided⟩ := Episode.ended_or_taken_of_mem_ending taken
    · cases same
    · exact ⟨waited, decided⟩

theorem taken_of_decided (depth : Nat) (outside : Outside)
    (decided : (e.isOpen && e.handle.stillWaiting) = false) :
    .taken ∈ e.entries depth outside .wait :=
  List.mem_append_right _ (by simp [Episode.ending, episode, decided])

/-- What becomes of a wait: it takes the outcome, or it runs into its limit and nothing happens. -/
theorem step_wait (depth : Nat) (outside : Outside) (e : Engine) :
    if .taken ∈ e.entries depth outside .wait then
      (e.step depth outside .wait).1 = .outcome (match e.handle.error with
        | some error => .error error
        | none => .ok e.handle.results)
    else e.step depth outside .wait = (.outcome (.error (.timeout e.settings.maxWait)), e) := by
  split
  next taken =>
    have outcome := waitResult_fst outside.toLink (waited_of_taken taken).2
    exact congrArg Answer.outcome outcome
  next untaken =>
    have waiting : (e.isOpen && e.handle.stillWaiting) = true :=
      eq_true_of_ne_false fun decided => untaken (taken_of_decided depth outside decided)
    simp only [step, waitResult_of_waiting outside.toLink waiting]

/-- Nothing but a wait or a close takes the guard away. -/
theorem step_active {depth : Nat} {outside : Outside} {operation : Operation}
    (unasked : operation ≠ .wait) (lasting : ∀ entry ∈ e.entries depth outside operation,
      entry.closes e.settings.autoClose = false) (active : e.handle.active = true) :
    (e.step depth outside operation).2.handle.active = true := by
  by_cases asked : ∃ source model, operation = .recognize source model
  · obtain ⟨source, model, rfl⟩ := asked
    have kept : model.usable = false ∨ e.handle.active = true := .inr active
    rw [recognize_turned_away depth outside source kept]
    exact active
  · refine (step_active_iff fun source model same => asked ⟨source, model, same⟩).mpr
      ⟨active, fun entry member => ?_⟩
    have untaken : entry ≠ .taken := by
      rintro rfl
      exact unasked (waited_of_taken member).1
    simp [Entry.frees, untaken, lasting entry member]

/-- A request to recognize is refused as one too many exactly if a recognition was accepted before
and since then no outcome was taken and no close has come to its end.  A wait that takes no outcome
runs into its limit and leaves all as it was; otherwise it gives what was recorded.  A request that
failed for want of a connection keeps nobody out, and nothing but a wait or a close changes what
becomes of the next request.  Callbacks keep to actions: they may close and cancel, start timers and
ask for the status. -/
theorem recognize_refused_iff {first : Engine} {log : Chronicle} (new : first.New)
    (run : Chronicled first e log) {model : LanguageModel} (usable : model.usable = true) :
    let refused (e : Engine) (depth : Nat) (outside : Outside) (source : SourceId) :=
      (e.step depth outside (.recognize source model)).1 = .reply (.failed .activeRecognition)
    (∀ depth outside source, refused e depth outside source ↔
      log.Since Entry.accepts (Entry.frees first.settings.autoClose)) ∧
    (∀ depth outside, if .taken ∈ e.entries depth outside .wait then
        (e.step depth outside .wait).1 = .outcome (match e.handle.error with
          | some error => .error error
          | none => .ok e.handle.results)
      else e.step depth outside .wait = (.outcome (.error (.timeout e.settings.maxWait)), e)) ∧
    (∀ depth outside source other (refusal : Refusal),
      (e.step depth outside (.recognize source other)).1 = .reply (.failed refusal.error) →
      ∀ depth' outside' source',
        ¬refused (e.step depth outside (.recognize source other)).2 depth' outside' source') ∧
    ∀ depth outside operation, operation ≠ .wait →
      (∀ entry ∈ e.entries depth outside operation,
        entry.closes first.settings.autoClose = false) →
      (∀ depth outside source, refused e depth outside source) →
      ∀ depth' outside' source',
        refused (e.step depth outside operation).2 depth' outside' source' := by
  intro refused
  have guarded (e : Engine) (depth : Nat) (outside : Outside) (source : SourceId) :
      refused e depth outside source ↔ e.handle.active = true :=
    recognize_refused_iff_active depth outside source usable
  refine ⟨?_, fun depth outside => step_wait depth outside e, ?_, ?_⟩
  · intro depth outside source
    exact (guarded e depth outside source).trans (run.active_iff new)
  · intro depth outside source other refusal failed depth' outside' source' keptOut
    have active := (guarded _ depth' outside' source').mp keptOut
    have inactive := recognize_failed failed
    rw [inactive] at active
    cases active
  · intro depth outside operation unasked lasting keptOut depth' outside' source'
    rw [← run.same.1] at lasting
    have active := (guarded e depth outside source').mp (keptOut depth outside source')
    exact (guarded _ depth' outside' source').mpr (step_active unasked lasting active)

/-- A recognition is accepted, and while it runs another one is refused. -/
theorem recognize_refused_while_running :
    let outside : Outside := { Link.reliable with }
    let begun := (sample.step 0 outside (.recognize 0 (.ofUri "builtin:slm"))).2
    (LanguageModel.ofUri "builtin:slm").usable = true ∧
      (begun.step 0 outside (.recognize 1 (.ofUri "builtin:slm"))).1 =
        .reply (.failed .activeRecognition) := by
  intro outside begun
  have run : Chronicled sample begun _ := Chronicled.start.step 0 outside _
  have usable : (LanguageModel.ofUri "builtin:slm").usable = true := by decide +kernel
  exact ⟨usable, ((recognize_refused_iff sample_new run usable).1 0 outside 1).mpr
    (by decide +kernel)⟩

end Engine

end SpeechClient
