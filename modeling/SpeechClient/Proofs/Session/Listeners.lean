import SpeechClient.Proofs.Session.Story

/-!
# What listeners hear in common

Every operation tells its listeners a story, and so does every run.  Only the failure of a cancel
that was refused inside a callback can reach one listener before the matter at hand and another
after it.

- `Engine.step_relates`, `Engine.run_relates`: what operations tell is a story.
- `Engine.create_heard`: while a recognizer is made nobody can act, and all hear the same.
- `Engine.run_heard`: what any two listeners hear.
-/

namespace SpeechClient

open Wire

namespace Engine

variable {acts : Nat → Prop} {own : Notification → Prop} {e e' : Engine}

/-! ## Operations -/

theorem Relates.any (relates : Relates acts own e e') : Relates acts (fun _ => True) e e' :=
  relates.mono fun _ _ => trivial

section Operations

variable (link : Link) {notify : Notify} (telling : ∀ n e, Relates acts (· = n) e (notify n e))

theorem sendFirst_relates (e : Engine) : Relates acts own e (sendFirst link e).2 := by
  obtain ⟨more, seen, -⟩ := sendFirst_trace link e
  exact .of_face (sendFirst_face link e) ⟨more, seen.symm⟩

theorem dispatch_relates (event : Inbound) (e : Engine) :
    Relates acts own e (e.dispatch link event) := by
  obtain ⟨sources, seen⟩ := startStreams_trace link
    (e.handle.transition event e.settings.parameters).2
    (e.onHandle fun h => (h.transition event e.settings.parameters).1)
  obtain ⟨streamer, face⟩ := startStreams_face link
    (e.onHandle fun h => (h.transition event e.settings.parameters).1)
    (e.handle.transition event e.settings.parameters).2
  exact .of_face face ⟨_, seen.symm⟩

include telling

theorem perform_relates (state : List Commit × Engine) (effect : Effect) :
    Relates acts (fun _ => True) state.2 (perform link notify state effect).2 := by
  obtain ⟨commits, e⟩ := state
  cases effect with
  | send frame =>
    have sending : Relates acts (fun _ => True) e (send link frame e).2 := send_relates link frame e
    simp only [perform]
    split
    next error e' result =>
      rw [result] at sending
      exact sending.trans (telling _ _).any
    next e' result =>
      rw [result] at sending
      exact sending
  | notify n => exact (telling n e).any
  | commit outcome =>
    cases outcome with
    | fail error => exact (telling _ e).any
    | result result last => exact .refl e
    | finish discard => exact .refl e
  | startStreaming source =>
    simp only [perform]
    split
    · exact (Relates.observe (fun _ => rfl) e).trans (telling _ _).any
    · exact .refl e

theorem process_relates (event : Inbound) (e : Engine) :
    Relates acts (fun _ => True) e (process link notify event e) := by
  have performing (effects : List Effect) (state : List Commit × Engine) :
      Relates acts (fun _ => True) state.2 (effects.foldl (perform link notify) state).2 := by
    induction effects generalizing state with
    | nil => exact .refl state.2
    | cons effect rest after => exact (perform_relates link telling state effect).trans (after _)
  exact ((dispatch_relates link event e).trans (performing _ ([], e.dispatch link event))).trans
    (.of_face (onHandle_face _ _) List.prefix_rfl)

theorem connectionClosed_relates (reason : String) (e : Engine) :
    Relates acts (fun _ => True) e (connectionClosed notify reason e) := by
  unfold connectionClosed
  extract_lets running stopped failed
  have stopping : Relates acts (fun _ => True) e stopped :=
    (Relates.of_face (onHandle_face e _) List.prefix_rfl).trans (stopStreamer_relates _)
  have failing : Relates acts (fun _ => True) e failed := by
    unfold failed
    split
    · exact stopping.trans (fail_relates telling _ stopped).any
    · exact stopping
  exact failing.trans (.of_silent rfl List.prefix_rfl rfl)

theorem recognize_relates (source : SourceId) (model : LanguageModel) (e : Engine) :
    Relates acts (fun _ => True) e (recognize link notify source model e).2 := by
  unfold recognize
  split
  · exact .refl e
  · split
    · exact .refl e
    · have sending : Relates acts (fun _ => True) e
          (sendFirst link (e.onHandle (·.begin source model))).2 :=
        (Relates.of_face (onHandle_face e _) List.prefix_rfl).trans (sendFirst_relates link _)
      split
      next sent result =>
        rw [result] at sending
        exact sending
      next error sent result =>
        rw [result] at sending
        exact (sending.trans (telling _ sent).any).trans
          (.of_face (onHandle_face _ _) List.prefix_rfl)

theorem turn_relates (s : Streamer) (e : Engine) :
    Relates acts (fun _ => True) e (turn link notify s e) := by
  have taking : Relates acts (fun _ => True) e (readSource s.source e).2 :=
    .of_face (readSource_face e s.source) (readSource_trace s.source e ▸ List.prefix_rfl)
  have reading : Relates acts (fun _ => True) e (e.reading link notify s).2 :=
    taking.trans (react_relates link telling _ _).any
  have ending {sent : Engine} (before : Relates acts (fun _ => True) e sent) (ends : Bool) :
      Relates acts (fun _ => True) e (if ends then sent.endThread s else sent) := by
    split
    · exact before.trans (.of_silent rfl List.prefix_rfl rfl)
    · exact before
  have advancing : Relates acts (fun _ => True) e (e.advance link notify s) := by
    refine ending ?_ _
    split
    next frame _ => exact reading.trans (send_relates link frame _)
    · exact reading
  by_cases running : s ∈ e.threads
  · rw [turn_eq running]
    split
    · exact advancing.trans (fail_relates telling _ _).any
    · exact advancing
  · exact .of_eq (turn_of_stopped running)

end Operations

theorem step_relates {outside : Outside}
    (quiet : ∀ l, ¬acts l → ∀ n, outside.reaction l n = .done) (depth : Nat)
    (operation : Operation) (e : Engine) :
    Relates acts (fun _ => True) e (step depth outside operation e).2 := by
  have telling : ∀ n e, Relates acts (· = n) e (notifyAll outside depth n e) :=
    notifyAll_relates quiet depth
  cases operation with
  | recognize source model => exact recognize_relates outside.toLink telling source model e
  | wait => exact waitResult_relates outside.toLink e
  | cancel => exact (cancel_relates outside.toLink telling e).any
  | startTimers => exact send_relates outside.toLink _ e
  | close => exact close_relates outside.toLink e
  | status => exact .refl e
  | write source bytes =>
    refine .of_face (write_face e source bytes) ?_
    simp only [step, write]
    split
    · exact List.prefix_rfl
    · exact List.prefix_rfl
  | finish source => exact .of_silent rfl List.prefix_rfl rfl
  | message octets =>
    simp only [step]
    split
    · rw [receive_eq]
      split
      next event _ => exact process_relates outside.toLink telling event e
      · exact .refl e
    · exact .refl e
  | lost reason =>
    simp only [step]
    split
    · exact connectionClosed_relates telling reason e
    · exact .of_silent rfl List.prefix_rfl rfl
  | vanish => exact .of_silent rfl List.prefix_rfl rfl
  | stream s => exact turn_relates outside.toLink telling s e

theorem run_relates (depth : Nat) (operations : List (Outside × Operation))
    (quiet : ∀ entry ∈ operations, ∀ l, ¬acts l → ∀ n, entry.1.reaction l n = .done) (e : Engine) :
    Relates acts (fun _ => True) e (run depth operations e).2 := by
  induction operations generalizing e with
  | nil => exact .refl e
  | cons entry rest after =>
    obtain ⟨outside, operation⟩ := entry
    have now := step_relates (quiet _ List.mem_cons_self) depth operation e
    exact now.trans (after (fun entry later => quiet entry (List.mem_cons_of_mem _ later)) _)

/-- While a recognizer is made nobody can act, and all hear the same. -/
theorem create_heard (link : Link) (settings : Settings) {listeners i j : Nat}
    (first : i < listeners) (second : j < listeners) :
    (create link settings listeners).2.filterMap (·.heardBy i) =
      (create link settings listeners).2.filterMap (·.heardBy j) := by
  unfold create
  split
  · rfl
  next url _ =>
    extract_lets made
    split
    · rfl
    · have opened := openConnection_face link made
      generalize openConnection link made = answer at opened
      obtain ⟨failure, connected⟩ := answer
      have untold (i : Nat) : connected.told i = [] := congrFun (congrArg Face.told opened) i
      cases failure with
      | none => exact (untold i).trans (untold j).symm
      | some error =>
        have quiet (l : Nat) (_ : ¬False) (n : Notification) :
            ({ link with } : Outside).reaction l n = .done := rfl
        have telling := notifyAll_relates quiet 0 (.error error) connected
        have count : connected.listeners = listeners := congrArg Face.listeners opened
        have alike := telling.story.eq_of_adjacent (count ▸ first) (count ▸ second)
          fun _ impossible => impossible.elim
        change (notifyAll _ 0 (.error error) connected).told i =
          (notifyAll _ 0 (.error error) connected).told j
        rw [told_eq_append telling.grows, told_eq_append telling.grows, untold, untold, alike]

/-- All listeners hear the same, whichever actions they do from inside their callbacks.  Only
failures of cancels that were refused inside a callback may come in another place, and two listeners
hear of these too in the same order if none that acts has its turn between theirs. -/
theorem run_heard (depth : Nat) (operations : List (Outside × Operation)) (e : Engine) {i j : Nat}
    (first : i < e.listeners) (second : j < e.listeners) :
    let later := (run depth operations e).2
    let heard := later.heardSince e
    let plain (n : Notification) := !n.refusedIn (later.seenSince e)
    (heard i).Perm (heard j) ∧ (heard i).filter plain = (heard j).filter plain ∧
      ((∀ error, .acted .cancel (.failed error) ∉ later.seenSince e) → heard i = heard j) ∧
      ((∀ entry ∈ operations, ∀ l n, entry.1.reaction l n ≠ .done → (i ≤ l ↔ j ≤ l)) →
        heard i = heard j) := by
  intro later heard plain
  -- Whoever reacts to anything at any time of the run counts as one that acts.
  let acts (l : Nat) : Prop := ∃ entry ∈ operations, ∃ n, entry.1.reaction l n ≠ .done
  have quiet : ∀ entry ∈ operations, ∀ l, ¬acts l → ∀ n, entry.1.reaction l n = .done := by
    intro entry member l still n
    by_contra reacts
    exact still ⟨entry, member, n, reacts⟩
  have story := (run_relates depth operations quiet e).story
  have alike : (heard i).filter plain = (heard j).filter plain :=
    story.filter_eq (fun n refused => by simp [plain, later, refused]) first second
  refine ⟨story.perm first second, alike, fun taken => ?_, fun adjacent => ?_⟩
  · have all : ∀ n, plain n = true := by
      intro n
      cases n with
      | error error => simpa [plain, Notification.refusedIn] using taken error
      | _ => rfl
    rwa [List.filter_eq_self.mpr fun n _ => all n, List.filter_eq_self.mpr fun n _ => all n]
      at alike
  · refine story.eq_of_adjacent first second fun l acting => ?_
    obtain ⟨entry, member, n, reacts⟩ := acting
    exact adjacent entry member l n reacts

/-- The first of three listeners wants to cancel when it hears that the server listens, and cannot.
The other two hear of that first. -/
theorem run_heard_behind :
    let outside : Outside :=
      { refuseOpen := fun _ => none
        refuseSend := fun _ frame =>
          if frame.method? = some .cancelRecognition then some (.ofReason "gone") else none
        reaction := fun i n => if i = 0 ∧ n = .listening then .ofAction .cancel else .done }
    let message := Operation.message
      (utf8 "ASR 2.4 RESPONSE\r\nMethod: START_RECOGNITION\r\nResult: SUCCESS\r\n\r\n")
    let e := (({ sample with listeners := 3 } : Engine).attach (.own { reads := [] })).2
    let operations := [(outside, .recognize 0 (.ofUri "builtin:slm")), (outside, message)]
    let heard := (run 1 operations e).2.heardSince e
    (1 < e.listeners ∧ 2 < e.listeners) ∧
      heard 1 = [.error (.connectionFailure "gone"), .listening] ∧ heard 1 = heard 2 := by
  intro outside message e operations heard
  refine ⟨by decide, by decide +kernel, ?_⟩
  have quiet : ∀ entry ∈ operations, ∀ l n, entry.1.reaction l n ≠ .done → (1 ≤ l ↔ 2 ≤ l) := by
    intro entry member l n reacts
    have all : entry.1 = outside := by
      simp only [operations, List.mem_cons, List.not_mem_nil, or_false] at member
      obtain rfl | rfl := member
      · rfl
      · rfl
    have acting : l = 0 ∧ n = .listening := by
      by_contra other
      exact reacts (by rw [all]; exact if_neg other)
    omega
  exact (run_heard 1 operations e (by decide) (by decide)).2.2.2 quiet

/-- A listener that cannot cancel from inside its callback hears of that after the matter itself,
the listener behind it before. -/
theorem unlike_of_refused_cancel :
    let outside : Outside :=
      { refuseOpen := fun _ => none
        refuseSend := fun _ frame =>
          if frame.method? = some .cancelRecognition then some (.ofReason "gone") else none
        reaction := fun i n => if i = 0 ∧ n = .listening then .ofAction .cancel else .done }
    let message := Operation.message
      (utf8 "ASR 2.4 RESPONSE\r\nMethod: START_RECOGNITION\r\nResult: SUCCESS\r\n\r\n")
    let e := (({ sample with listeners := 2 } : Engine).attach (.own { reads := [] })).2
    let operations := [(outside, .recognize 0 (.ofUri "builtin:slm")), (outside, message)]
    let heard := (run 1 operations e).2.heardSince e
    heard 0 = [.listening, .error (.connectionFailure "gone")] ∧
      heard 1 = [.error (.connectionFailure "gone"), .listening] ∧ heard 0 ≠ heard 1 := by
  decide +kernel

end Engine

end SpeechClient
