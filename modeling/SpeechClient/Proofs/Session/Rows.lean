import SpeechClient.Proofs.Session.Moves

/-!
# Operations are rows of moves

For each part of an operation there is one theorem that says which row of moves it is.  Callbacks
tell listeners in their turn, so the parts with callbacks ask of the telling that it is a row of
moves itself, and that all listeners come to hear it.

- `Engine.Telling`: what is asked of the telling.
- `Engine.notifyAll_telling`: what listeners do when they are told something.
- `Engine.step_moves`: what an operation does.
-/

namespace SpeechClient

open Wire

namespace Engine

/-- Telling is a row of moves, and all listeners come to hear what is told. -/
structure Telling (ep : Episode) (notify : Notify) : Prop where
  moves : ∀ n e, ep.start.trace <+: e.trace → Moves ep e (notify n e)
  heard : ∀ n e, ep.start.trace <+: e.trace → (notify n e).Heard ep.start n

/-- What was put aside has been told. -/
def Staged (ep : Episode) (state : List Commit × Engine) : Prop :=
  ∀ outcome ∈ state.1, Announced ep state.2 outcome

variable {ep : Episode} {e e' : Engine} {commits : List Commit}

theorem Staged.later (staged : Staged ep (commits, e)) (moves : Moves ep e e') :
    Staged ep (commits, e') :=
  fun outcome member => (staged outcome member).later moves

theorem Staged.concat (staged : Staged ep (commits, e)) {outcome : Commit}
    (announced : Announced ep e outcome) : Staged ep (commits ++ [outcome], e) := by
  intro other member
  cases List.mem_append.mp member with
  | inl member => exact staged other member
  | inr member => exact List.mem_singleton.mp member ▸ announced

/-! ## Actions and callbacks -/

section Callbacks

variable (link : Link) {notify : Notify}

theorem send_moves (e : Engine) {frame : Frame} (sends : ∀ taken, (taken →
    (send link frame e).1 = none) → Sends ep e taken frame) :
    Moves ep e (send link frame e).2 := by
  unfold send at sends ⊢
  split
  · exact (Move.observed (.refused (sends False False.elim))).moves
  next taken =>
    refine (Move.observed (.sent (sends True fun _ => ?_))).moves
    simp only [taken]

theorem close_moves (e : Engine) : Moves ep e (close link e) := by
  unfold close
  extract_lets hasSession stopped released shut source forgotten
  have idle : stopped.handle.streamer = none :=
    congrArg (·.handle.streamer) (stopStreamer_face e)
  have releasing : Moves ep stopped released := by
    unfold released
    split
    · exact send_moves link stopped fun _ _ => .release
    · exact .refl
  have releasedHandle : released.handle = stopped.handle := by
    unfold released
    split
    · exact congrArg Face.handle (send_face link stopped Request.releaseSession)
    · rfl
  have shutting : Moves ep stopped shut ∧ shut.handle = stopped.handle ∧ shut.isOpen = false := by
    unfold shut
    split
    · have hanging : Move ep released { released with isOpen := false } :=
        .hungUp (releasedHandle ▸ idle)
      exact ⟨(releasing.tail hanging).tail (.observed (.closed rfl)), releasedHandle, rfl⟩
    next closed => exact ⟨.refl, rfl, Bool.eq_false_iff.mpr closed⟩
  obtain ⟨shutMoves, shutHandle, closed⟩ := shutting
  have forgetting : Move ep shut shut.forget := .forgotten (shutHandle ▸ idle) closed
  exact .head (.stopped e) (shutMoves.tail forgetting)

theorem autoClose_moves (e : Engine) : Moves ep e (autoClose link e) := by
  unfold autoClose
  split
  · exact close_moves link e
  · exact .refl

theorem close_handle (e : Engine) : (close link e).handle = {} :=
  congrArg Face.handle (close_face link e)

theorem close_isOpen (e : Engine) : (close link e).isOpen = false :=
  congrArg Face.isOpen (close_face link e)

theorem markCanceled_moves (e : Engine) : Moves ep e (markCanceled e) := by
  unfold markCanceled
  split
  · exact .refl
  next running =>
    have running : e.handle.recognizing = true := by simpa using running
    split
    next connected => exact (Move.cancelAsked running connected).moves
    next gone =>
      have canceled : Records ep e (.finish true) :=
        .canceled running (Bool.eq_false_iff.mpr gone)
      exact (Move.recorded canceled trivial).moves

theorem autoClose_completes (e : Engine) (idle : e.handle.streamer = none) :
    (autoClose link e).Completed .cancel .done := by
  unfold autoClose
  split
  · exact ⟨by rw [close_handle], fun _ => ⟨close_handle link e, close_isOpen link e⟩⟩
  next lasting => exact ⟨idle, fun closing => absurd closing lasting⟩

theorem cancel_completes (notify : Notify) (e : Engine) :
    (cancel link notify e).2.Completed .cancel (replyOf (cancel link notify e).1) := by
  obtain ⟨asked, face, canceled⟩ := cancel_eq link e notify
  rw [stopStreamer_face] at face
  have idle : asked.handle.streamer = none := congrArg (·.handle.streamer) face
  rw [canceled]
  split
  · trivial
  · exact autoClose_completes link asked idle

variable (telling : Telling ep notify)
include telling

theorem fail_moves {error : RecognitionError} (since : ep.start.trace <+: e.trace)
    (records : ∀ e', e.trace <+: e'.trace → Records ep e' (.fail error)) :
    Moves ep e (fail notify error e) := by
  have told : Moves ep e (notify (.error error) e) := telling.moves _ e since
  exact told.tail (.recorded (records _ told.grows) (telling.heard _ e since))

theorem cancel_moves (since : ep.start.trace <+: e.trace) :
    Moves ep e (cancel link notify e).2 := by
  unfold cancel
  extract_lets wasOpen asked
  have asking : Moves ep e asked := (markCanceled_moves e).tail (.stopped _)
  cases wasOpen with
  | false => exact asking.trans (autoClose_moves link asked)
  | true =>
    have sending : Moves ep asked (send link Request.cancelRecognition asked).2 :=
      send_moves link asked fun _ _ => .cancel
    have seen : (send link Request.cancelRecognition asked).1.isSome = true →
        .sendFailed Request.cancelRecognition ∈
          (send link Request.cancelRecognition asked).2.seenSince ep.start := by
      have sinceAsked : ep.start.trace <+: asked.trace := since.trans asking.grows
      unfold send
      split
      · intro _
        rw [seenSince_observe sinceAsked]
        exact List.mem_append_right _ (List.mem_singleton_self _)
      · intro failed
        cases failed
    generalize send link Request.cancelRecognition asked = result at sending seen
    obtain ⟨failure, sent⟩ := result
    have sentMoves : Moves ep e sent := asking.trans sending
    cases failure with
    | some error =>
      refine sentMoves.trans (fail_moves telling (since.trans sentMoves.grows) ?_)
      intro later further
      exact .cancelRefused error (mem_seenSince_of_grown further (seen rfl))
    | none => exact sentMoves.trans (autoClose_moves link sent)

theorem act_moves (since : ep.start.trace <+: e.trace) (action : Action) :
    Moves ep e (act link notify action e).2 := by
  cases action with
  | close =>
    have closed : (close link e).Completed .close .done :=
      ⟨close_handle link e, close_isOpen link e⟩
    exact (close_moves link e).tail (.observed (.acted closed))
  | cancel =>
    have canceled := cancel_completes link notify e
    exact (cancel_moves link telling since).tail (.observed (.acted canceled))
  | startTimers =>
    have asked : Moves ep e (startTimers link e).2 := send_moves link e fun _ _ => .timers
    exact asked.tail (.observed (.acted trivial))
  | status =>
    have known (reply : Reply) : e.Completed .status reply := trivial
    exact (Move.observed (.acted (known _))).moves

theorem react_moves (since : ep.start.trace <+: e.trace) (reaction : Reaction) :
    Moves ep e (react link notify reaction e) := by
  induction reaction generalizing e with
  | done => exact .refl
  | act action next after =>
    have acting := act_moves link telling since action
    exact acting.trans (after _ (since.trans acting.grows))

end Callbacks

/-- One listener after another is told, and what each does is a row of moves. -/
theorem foldl_telling {f : Engine → Nat → Engine} {n : Notification}
    (one : ∀ e i, ep.start.trace <+: e.trace →
      Moves ep e (f e i) ∧ .notified i n ∈ (f e i).seenSince ep.start)
    (since : ep.start.trace <+: e.trace) (listeners : List Nat) :
    Moves ep e (listeners.foldl f e) ∧
      ∀ i ∈ listeners, .notified i n ∈ (listeners.foldl f e).seenSince ep.start := by
  induction listeners generalizing e with
  | nil => exact ⟨.refl, by simp⟩
  | cons i rest after =>
    obtain ⟨first, told⟩ := one e i since
    obtain ⟨later, others⟩ := after (since.trans first.grows)
    refine ⟨first.trans later, ?_⟩
    intro other member
    cases List.mem_cons.mp member with
    | inl same =>
      rw [same]
      exact mem_seenSince_of_grown later.grows told
    | inr member => exact others other member

theorem Telling.of_foldl {notify : Notify} {f : Notification → Engine → Nat → Engine}
    (folds : ∀ n e, notify n e = (List.range e.listeners).foldl (f n) e)
    (one : ∀ n e i, ep.start.trace <+: e.trace →
      Moves ep e (f n e i) ∧ .notified i n ∈ (f n e i).seenSince ep.start) :
    Telling ep notify := by
  have row (n : Notification) (e : Engine) (since : ep.start.trace <+: e.trace) :=
    foldl_telling (one n) since (List.range e.listeners)
  refine ⟨fun n e since => folds n e ▸ (row n e since).1, ?_⟩
  intro n e since i bound
  obtain ⟨moves, told⟩ := row n e since
  rw [folds, moves.same.2] at bound
  rw [folds]
  exact told i (List.mem_range.mpr bound)

theorem told_moves (since : ep.start.trace <+: e.trace) (i : Nat) (n : Notification) :
    Moves ep e (e.observe (.notified i n)) ∧
      .notified i n ∈ (e.observe (.notified i n)).seenSince ep.start := by
  refine ⟨(Move.observed (.told i n)).moves, ?_⟩
  rw [seenSince_observe since]
  exact List.mem_append_right _ (List.mem_singleton_self _)

theorem notifyAll_telling (outside : Outside) (depth : Nat) :
    Telling ep (notifyAll outside depth) := by
  -- On the depth: what callbacks do tells listeners one level down, and at the last nobody acts.
  induction depth with
  | zero => exact .of_foldl (fun _ _ => rfl) fun n e i since => told_moves since i n
  | succ depth deeper =>
    refine .of_foldl (fun _ _ => rfl) fun n e i since => ?_
    obtain ⟨told, heard⟩ := told_moves since i n
    have reacting := react_moves outside.toLink deeper (since.trans told.grows)
      (outside.reaction i n)
    exact ⟨told.trans reacting, mem_seenSince_of_grown reacting.grows heard⟩

/-! ## Whole operations -/

section Operations

variable (link : Link) {notify : Notify}

theorem commitAll_moves {event : Inbound} (brought : ep.event? = some event)
    {outcomes : List Commit} (staged : Staged ep (outcomes, e)) :
    Moves ep e (e.onHandle (·.commitAll outcomes)) := by
  induction outcomes generalizing e with
  | nil => exact .refl
  | cons outcome rest after =>
    have first : Move ep e (e.onHandle (·.commit outcome)) :=
      .recorded (.brought outcome brought) (staged outcome (by simp))
    exact .head first (after fun c member => staged c (by simp [member]))

theorem sendFirst_moves {source : SourceId} {model : LanguageModel}
    (asked : ep.operation = .recognize source model)
    (answered : (sendFirst link e).1 = none → ep.answer = .reply .done) :
    Moves ep e (sendFirst link e).2 := by
  have opening : Moves ep e (openConnection link e).2 := by
    unfold openConnection
    split
    · exact .refl
    · dsimp only
      split
      · exact (Move.observed (.opened asked)).moves
      · exact .head (.observed (.opened asked)) (Move.connected _ asked).moves
  unfold sendFirst at answered ⊢
  split
  next error e' result =>
    rw [result] at opening
    exact opening
  next e' result =>
    rw [result] at opening answered
    dsimp only at answered
    split
    next frame requested =>
      rw [requested] at answered
      refine opening.trans (send_moves link e' fun taken accepted => ?_)
      exact .first asked (fun took => answered (accepted took)) requested
    · exact opening

theorem sendFirst_trace (e : Engine) : ∃ more, (sendFirst link e).2.trace = e.trace ++ more ∧
    ∀ source, .audioClosed source ∉ more := by
  have opening : ∃ more, (openConnection link e).2.trace = e.trace ++ more ∧
      ∀ source, .audioClosed source ∉ more := by
    unfold openConnection
    split
    · exact ⟨[], (List.append_nil _).symm, by simp⟩
    · dsimp only
      split
      · exact ⟨[.opened e.endpoint], rfl, by simp⟩
      · exact ⟨[.opened e.endpoint], rfl, by simp⟩
  have sending (isOpen : Bool) (frame : Frame) (source : SourceId) :
      link.attempt isOpen frame ≠ .audioClosed source := by
    unfold Link.attempt
    split
    · simp
    · simp
  obtain ⟨more, opened, others⟩ := opening
  unfold sendFirst
  split
  next error e' result =>
    rw [result] at opened
    exact ⟨more, opened, others⟩
  next e' result =>
    rw [result] at opened
    split
    next frame _ =>
      rw [send_snd]
      refine ⟨more ++ [link.attempt e'.isOpen frame], ?_, fun source member => ?_⟩
      · rw [← List.append_assoc, ← opened]
        rfl
      · cases List.mem_append.mp member with
        | inl member => exact others source member
        | inr member => exact sending _ _ source (List.mem_singleton.mp member).symm
    · exact ⟨more, opened, others⟩

theorem giveOutcome_eq (e : Engine) : e.giveOutcome =
    match e.handle.streamer with
    | some s => (e.onHandle Handle.takeOutcome).stop s
    | none => e.onHandle Handle.takeOutcome := by
  unfold giveOutcome stopStreamer
  cases e.handle.streamer with
  | none => rfl
  | some s => rfl

theorem waitResult_moves (waited : ep.operation = .wait) :
    Moves ep ep.start (waitResult link ep.start).2 := by
  unfold waitResult
  split
  · exact .refl
  next decided =>
    extract_lets h taken stopped closed
    have giving : Move ep ep.start stopped := by
      have same : stopped = ep.start.giveOutcome := (giveOutcome_eq ep.start).symm
      rw [same]
      exact .given waited (Bool.eq_false_iff.mpr decided)
    have closing : Moves ep ep.start closed := .head giving (autoClose_moves link stopped)
    split
    · exact closing
    · exact closing

variable (telling : Telling ep notify)
include telling

theorem perform_moves {event : Inbound} (brought : ep.event? = some event) {effect : Effect}
    (asked : effect ∈ (ep.start.handle.transition event ep.start.settings.parameters).2)
    (plain : ∀ result last, effect ≠ .commit (.result result last)) {commits : List Commit}
    (since : ep.start.trace <+: e.trace) (staged : Staged ep (commits, e)) :
    Moves ep e (perform link notify (commits, e) effect).2 ∧
      Staged ep (perform link notify (commits, e) effect) := by
  have failing {e' : Engine} (moves : Moves ep e e') (error : RecognitionError) :
      Moves ep e (notify (.error error) e') ∧
        Staged ep (commits ++ [.fail error], notify (.error error) e') := by
    have since' := since.trans moves.grows
    have told := moves.trans (telling.moves (.error error) e' since')
    exact ⟨told, (staged.later told).concat (telling.heard (.error error) e' since')⟩
  cases effect with
  | send frame =>
    have sending : Moves ep e (send link frame e).2 :=
      send_moves link e fun _ _ => .follow brought asked
    simp only [perform]
    split
    next error e' result =>
      rw [result] at sending
      exact failing sending error
    next e' result =>
      rw [result] at sending
      exact ⟨sending, staged.later sending⟩
  | startStreaming source =>
    simp only [perform]
    split
    next error _ => exact failing (Move.observed (.unstarted source brought)).moves error
    · exact ⟨.refl, staged⟩
  | notify n =>
    have told := telling.moves n e since
    exact ⟨told, staged.later told⟩
  | commit outcome =>
    cases outcome with
    | fail error => exact failing .refl error
    | result result last => exact absurd rfl (plain result last)
    | finish discard => exact ⟨.refl, staged.concat trivial⟩

theorem performAll_moves {event : Inbound} (brought : ep.event? = some event)
    {effects : List Effect} (asked : ∀ effect ∈ effects,
      effect ∈ (ep.start.handle.transition event ep.start.settings.parameters).2)
    (plain : ∀ result last, .commit (.result result last) ∉ effects) {commits : List Commit}
    (since : ep.start.trace <+: e.trace) (staged : Staged ep (commits, e)) :
    Moves ep e (effects.foldl (perform link notify) (commits, e)).2 ∧
      Staged ep (effects.foldl (perform link notify) (commits, e)) := by
  induction effects generalizing commits e with
  | nil => exact ⟨.refl, staged⟩
  | cons effect rest after =>
    obtain ⟨first, firstStaged⟩ := perform_moves link telling brought (asked effect (by simp))
      (fun result last same => plain result last (by simp [same])) since staged
    obtain ⟨later, laterStaged⟩ := after (fun other member => asked other (by simp [member]))
      (fun result last member => plain result last (by simp [member]))
      (since.trans first.grows) firstStaged
    exact ⟨first.trans later, laterStaged⟩

/-- What comes after the transition. -/
theorem process_moves_dispatched {event : Inbound} (brought : ep.event? = some event) :
    Moves ep (ep.start.dispatch link event) (process link notify event ep.start) := by
  have dispatching := Move.dispatched link brought
  let effects := (ep.start.handle.transition event ep.start.settings.parameters).2
  let dispatched := ep.start.dispatch link event
  have performing : Moves ep dispatched
        (effects.foldl (perform link notify) ([], dispatched)).2 ∧
      Staged ep (effects.foldl (perform link notify) ([], dispatched)) := by
    by_cases plain : ∀ result last, .commit (.result result last) ∉ effects
    · exact performAll_moves link telling brought (fun effect member => member) plain
        dispatching.grows (by simp [Staged])
    · -- A result goes to the listeners, and then it waits to be recorded.
      push Not at plain
      obtain ⟨result, last, member⟩ := plain
      have effectsEq : effects = _ := Handle.transition_result member
      rw [effectsEq]
      exact ⟨telling.moves _ _ dispatching.grows, .concat (by simp [Staged])
        (telling.heard _ _ dispatching.grows)⟩
  have recording := commitAll_moves brought performing.2
  simp only [← Handle.record_snd] at recording
  exact performing.1.trans recording

theorem process_moves {event : Inbound} (brought : ep.event? = some event) :
    Moves ep ep.start (process link notify event ep.start) :=
  .head (.dispatched link brought) (process_moves_dispatched link telling brought)

theorem connectionClosed_moves {reason : String} (lost : ep.operation = .lost reason) :
    Moves ep (ep.start.onHandle fun h => { h with state := .none })
      (connectionClosed notify reason ep.start) := by
  unfold connectionClosed
  extract_lets running stopped failed
  have stopping : Move ep (ep.start.onHandle fun h => { h with state := .none }) stopped :=
    .stopped _
  have failing : Moves ep stopped failed := by
    unfold failed
    split
    next wasRunning =>
      exact fail_moves telling stopping.grows fun _ _ => .lost lost wasRunning
    · exact .refl
  exact .head stopping (failing.tail (.disconnected failed (.inr ⟨reason, lost⟩)))

theorem recognize_moves {source : SourceId} {model : LanguageModel}
    (asked : ep.operation = .recognize source model)
    (answered : (recognize link notify source model ep.start).1 = none ↔
      ep.answer = .reply .done) :
    Moves ep ep.start (recognize link notify source model ep.start).2 := by
  unfold recognize at answered ⊢
  split
  · exact .refl
  next usable =>
    rw [if_neg usable] at answered
    split
    · exact .refl
    next idle =>
      rw [if_neg idle] at answered
      have usable : model.usable = true := by simpa using usable
      have beginning : Move ep ep.start (ep.start.onHandle (·.begin source model)) :=
        .begun asked usable (Bool.eq_false_iff.mpr idle)
      have sending : Moves ep (ep.start.onHandle (·.begin source model))
          (sendFirst link (ep.start.onHandle (·.begin source model))).2 := by
        refine sendFirst_moves link asked fun accepted => answered.mp ?_
        split
        · rfl
        next error e' result =>
          rw [result] at accepted
          cases accepted
      generalize sendFirst link (ep.start.onHandle (·.begin source model)) = result
        at answered sending ⊢
      obtain ⟨failure, sent⟩ := result
      have begun : Moves ep ep.start sent := .head beginning sending
      cases failure with
      | none => exact begun
      | some error =>
        have failed : ep.answer ≠ .reply .done := fun done => by simpa using answered.mpr done
        exact (begun.trans (telling.moves (.error error) sent begun.grows)).tail
          (.abandoned _ asked failed (Bool.eq_false_iff.mpr idle))

theorem turn_moves {s : Streamer} (streamed : ep.operation = .stream s) :
    Moves ep ep.start (turn link notify s ep.start) := by
  unfold turn
  split
  · exact .refl
  next alive =>
    have alive : s ∈ ep.start.threads := by simpa using alive
    have reading : Moves ep ep.start (readSource s.source ep.start).2 := by
      unfold readSource
      split
      · refine (Move.audioHandled _ ?_).moves
        simpa only [HandlesAudio, streamed] using alive
      · exact .refl
    generalize readSource s.source ep.start = result at reading
    obtain ⟨r, read⟩ := result
    dsimp only at reading ⊢
    have reacting := reading.trans (react_moves link telling reading.grows r.reaction)
    generalize react link notify r.reaction read = reacted at reacting
    have failing {e : Engine} (before : Moves ep ep.start e) (error : RecognitionError) :
        Moves ep ep.start (fail notify error (e.endThread s)) := by
      have ended : Moves ep ep.start (e.endThread s) := before.tail (.threadEnded e streamed)
      exact ended.trans (fail_moves telling ended.grows fun _ _ =>
        .streamFailed error streamed alive)
    split
    next error _ => exact failing reacting error
    next status bytes _ =>
      split
      · exact reacting
      next going =>
        have going : s ∈ reacted.threads := by simpa using going
        split
        · exact reacting
        next frame packed =>
          have sending : Moves ep ep.start (send link frame reacted).2 :=
            reacting.trans (send_moves link reacted fun _ _ => .audio streamed going packed)
          split
          next error e' result =>
            rw [result] at sending
            exact failing sending error
          next e' result =>
            rw [result] at sending
            split
            · exact sending.tail (.threadEnded e' streamed)
            · exact sending

end Operations

/-- An operation is a row of moves. -/
theorem step_moves (depth : Nat) (outside : Outside) (operation : Operation) (e : Engine) :
    Moves ⟨operation, (step depth outside operation e).1, e⟩ e
      (step depth outside operation e).2 := by
  generalize answered : (step depth outside operation e).1 = answer
  let ep : Episode := ⟨operation, answer, e⟩
  have telling : Telling ep (notifyAll outside depth) := notifyAll_telling outside depth
  change Moves ep ep.start _
  cases operation with
  | recognize source model =>
    refine recognize_moves outside.toLink telling rfl ?_
    subst answered
    simp only [step, ep]
    cases (recognize outside.toLink (notifyAll outside depth) source model e).1 with
    | none => simp [replyOf]
    | some error => simp [replyOf]
  | wait => exact waitResult_moves outside.toLink rfl
  | cancel => exact cancel_moves outside.toLink telling List.prefix_rfl
  | startTimers => exact send_moves outside.toLink e fun _ _ => .timers
  | close => exact close_moves outside.toLink e
  | status => exact .refl
  | write source bytes =>
    have handles : HandlesAudio ep e := trivial
    simp only [step, write]
    split
    · exact (Move.audioHandled _ handles).moves
    · exact .refl
  | finish source =>
    have handles : HandlesAudio ep e := trivial
    exact (Move.audioHandled _ handles).moves
  | message octets =>
    simp only [step]
    split
    next reached =>
      rw [receive_eq]
      cases read : Inbound.ofMessage? e.settings.protocol octets with
      | none => exact .refl
      | some event =>
        have brought : ep.event? = some event := by
          simp only [Episode.event?, ep, reached, if_true, read]
        exact process_moves outside.toLink telling brought
    · exact .refl
  | lost reason =>
    simp only [step]
    split
    next reached =>
      exact .head (.sessionLost rfl reached) (connectionClosed_moves telling rfl)
    · exact (Move.disconnected e (.inr ⟨reason, rfl⟩)).moves
  | vanish => exact (Move.disconnected e (.inl rfl)).moves
  | stream thread => exact turn_moves outside.toLink telling rfl

theorem step_cancel_completes {depth : Nat} {outside : Outside}
    (done : (step depth outside .cancel e).1 = .reply .done) :
    (step depth outside .cancel e).2.Completed .cancel .done := by
  have completed := cancel_completes outside.toLink (notifyAll outside depth) e
  have replied : replyOf (cancel outside.toLink (notifyAll outside depth) e).1 = .done :=
    Answer.reply.inj done
  rw [replied] at completed
  exact completed

/-- What becomes of a request to recognize: it is refused at once, it is accepted, or no connection
takes it. -/
theorem recognize_cases (depth : Nat) (outside : Outside) (source : SourceId)
    (model : LanguageModel) (e : Engine) :
    let result := step depth outside (.recognize source model) e
    (result.1 = .reply (.failed .invalidLanguageModel) ∨
        result.1 = .reply (.failed .activeRecognition)) ∧ result.2 = e ∨
      e.handle.active = false ∧
        ((result.1 = .reply .done ∧ result.2.handle = e.handle.begin source model ∧
            ∀ i, .audioClosed i ∉ result.2.seenSince e) ∨
          (∃ refusal : Refusal, result.1 = .reply (.failed refusal.error)) ∧
            result.2.handle.recognizing = false) := by
  intro result
  let link := outside.toLink
  let notify := notifyAll outside depth
  have came : result = (.reply (replyOf (recognize link notify source model e).1),
      (recognize link notify source model e).2) := rfl
  rw [came]
  cases usable : model.usable with
  | false =>
    rw [recognize_of_unusable link notify source e usable]
    exact .inl ⟨.inl rfl, rfl⟩
  | true =>
    cases active : e.handle.active with
    | true =>
      rw [recognize_of_active link notify source usable active]
      exact .inl ⟨.inr rfl, rfl⟩
    | false =>
      refine .inr ⟨rfl, ?_⟩
      let begun := e.onHandle (·.begin source model)
      have sent := sendFirst_face link begun
      have failure := sendFirst_fst link begun
      obtain ⟨more, seen, unclosed⟩ := sendFirst_trace link begun
      rw [recognize_of_idle link notify source usable active]
      cases answer : sendFirst link begun with
      | mk failed e' =>
        rw [answer] at sent failure seen
        cases failed with
        | none =>
          refine .inl ⟨rfl, congrArg Face.handle sent, ?_⟩
          have seen : e'.trace = e.trace ++ more := seen
          simpa [seenSince, seen] using unclosed
        | some error =>
          obtain ⟨refusal, rfl⟩ := startFailure_refusal usable failure.symm
          exact .inr ⟨⟨refusal, rfl⟩, rfl⟩

end Engine

end SpeechClient
