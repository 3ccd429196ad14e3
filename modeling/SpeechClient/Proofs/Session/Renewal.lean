import SpeechClient.Proofs.Session.Announcement
import SpeechClient.Proofs.Session.CancelReply
import SpeechClient.Proofs.Session.Likeness

/-!
# A closed recognizer is as good as new

A close forgets the session and the recognition, stops the streaming thread, closes the source and
the connection.  What remains is what has no bearing on later work: the settings, and that the
connection knows whom to bring its messages to.  So from then on a recognizer does what a new one
does, if no message comes before it is connected again.

- `Engine.close_trace`, `close_sources`: what is seen of a close, and what becomes of the sources.
- `Engine.Grounded`: what was never connected has no session, no thread and no recognition.
- `Engine.close_renews`: what a close leaves, also for later.
-/

namespace SpeechClient

open Wire

namespace Engine

variable {e e' : Engine}

/-! ## What a close does -/

def closeSources (closed : List SourceId) (sources : List AudioSource) : List AudioSource :=
  closed.foldl (fun sources i => sources.modify i AudioSource.close) sources

theorem close_close (s : AudioSource) : s.close.close = s.close := by
  cases s with
  | _ => rfl

/-- A source can be closed more than once, which is as good as once. -/
theorem getElem?_closeSources (closed : List SourceId) (sources : List AudioSource)
    (i : SourceId) : (closeSources closed sources)[i]? =
      if i ∈ closed then sources[i]?.map AudioSource.close else sources[i]? := by
  unfold closeSources
  -- On the list, for any sources: the first of it has been closed when the rest is.
  induction closed generalizing sources with
  | nil => simp
  | cons first rest after =>
    rw [List.foldl_cons, after, List.getElem?_modify]
    by_cases here : first = i
    · subst here
      -- It may come again in the rest.
      cases sources[first]? with
      | none => simp
      | some s => simp [close_close]
    · simp [here, Ne.symm here]

def heldSources (e : Engine) : List SourceId :=
  (e.handle.streamer.map (·.source)).toList ++ e.handle.audioSource.toList

/-- What is seen when the connection is closed; the session may be released before that. -/
def partings (link : Link) (isOpen hasSession : Bool) : List Observation :=
  match isOpen, hasSession with
  | true, true => [link.attempt true Request.releaseSession, .closed]
  | true, false => [.closed]
  | false, _ => []

theorem stopStreamer_eq (e : Engine) : e.stopStreamer = { e with
    handle := { e.handle with streamer := none }
    sources := closeSources (e.handle.streamer.map (·.source)).toList e.sources
    threads := e.threads.filter (e.handle.streamer ≠ some ·)
    trace := e.trace ++ closings (e.handle.streamer.map (·.source)) } := by
  unfold stopStreamer
  split
  next s running =>
    have others : e.threads.filter (e.handle.streamer ≠ some ·) = e.threads.filter (· ≠ s) := by
      simp [running, eq_comm]
    rw [others, running]
    rfl
  next idle =>
    have same : e.handle = { e.handle with streamer := none } := by rw [← idle]
    rw [idle, ← same]
    simp [closings, closeSources]

theorem hangUp_eq (link : Link) (release : Prop) [Decidable release] (e : Engine) :
    e.hangUp link release = { e with
      isOpen := false
      trace := e.trace ++ partings link e.isOpen release } := by
  unfold hangUp
  cases connected : e.isOpen with
  | false =>
    have same : e = { e with isOpen := false, trace := e.trace ++ [] } := by
      rw [List.append_nil, ← connected]
    exact same
  | true =>
    by_cases session : release
    · simp [session, send_snd, connected, partings, observe]
    · simp [session, partings, observe]

theorem forget_eq (e : Engine) : e.forget = { e with
    handle := e.handle.reset
    sources := closeSources e.handle.audioSource.toList e.sources
    trace := e.trace ++ closings e.handle.audioSource } := by
  unfold forget
  split
  next i known =>
    rw [known]
    rfl
  next unknown =>
    rw [unknown]
    simp [closings, closeSources, onHandle]

/-- A close leaves nothing in the handle, and no connection.  The session is released while the
connection is open still, whether the frame is taken or not. -/
theorem close_eq_renewed (link : Link) (e : Engine) : close link e = { e with
    handle := {}
    isOpen := false
    sources := closeSources e.heldSources e.sources
    threads := e.threads.filter (e.handle.streamer ≠ some ·)
    trace := e.trace ++ (closings (e.handle.streamer.map (·.source)) ++
      partings link e.isOpen (e.handle.state ≠ .none) ++ closings e.handle.audioSource) } := by
  -- The three parts one after another; only what they add up to is left to see.
  rw [close_eq, forget_eq, hangUp_eq, stopStreamer_eq]
  simp only [heldSources, closeSources, List.foldl_append, List.append_assoc]
  rfl

/-- The only thread is the one that is stopped. -/
theorem close_threads (link : Link) (held : e.Held) : (close link e).threads = [] := by
  have threads : (close link e).threads = e.threads.filter (e.handle.streamer ≠ some ·) :=
    congrArg Engine.threads (close_eq_renewed link e)
  rw [threads]
  exact List.filter_eq_nil_iff.mpr fun s running => by simp [held s running]

theorem getElem?_close_sources (link : Link) (e : Engine) (i : SourceId) :
    (close link e).sources[i]? =
      if i ∈ e.heldSources then e.sources[i]?.map AudioSource.close else e.sources[i]? := by
  have sources : (close link e).sources = closeSources e.heldSources e.sources :=
    congrArg Engine.sources (close_eq_renewed link e)
  rw [sources, getElem?_closeSources]

theorem close_seenSince (link : Link) (e : Engine) : (close link e).seenSince e =
    closings (e.handle.streamer.map (·.source)) ++
      partings link e.isOpen (e.handle.state ≠ .none) ++ closings e.handle.audioSource := by
  have trace := congrArg Engine.trace (close_eq_renewed link e)
  change (close link e).trace.drop e.trace.length = _
  rw [trace]
  exact List.drop_left

theorem close_of_closed (link : Link) (forgotten : e.handle = {}) (shut : e.isOpen = false)
    (still : e.threads = []) : close link e = e := by
  rw [close_eq_renewed]
  obtain ⟨settings, endpoint, listeners, handle, isOpen, subscribed, sources, threads,
    nextThread, trace⟩ := e
  cases forgotten
  cases shut
  cases still
  simp [heldSources, closeSources, closings, partings]

/-! ## The connection -/

theorem startStreams_connection (link : Link) (effects : List Effect) (e : Engine) :
    (startStreams link effects e).endpoint = e.endpoint ∧
      (startStreams link effects e).subscribed = e.subscribed := by
  have starting (source : SourceId) (e : Engine) :
      (e.tryStreaming link source).endpoint = e.endpoint ∧
        (e.tryStreaming link source).subscribed = e.subscribed := by
    unfold tryStreaming
    split
    · rw [stopStreamer_eq]
      exact ⟨rfl, rfl⟩
    · unfold startStreaming
      dsimp only
      split
      · exact ⟨rfl, rfl⟩
      · exact ⟨rfl, rfl⟩
  unfold startStreams
  induction effects generalizing e with
  | nil => exact ⟨rfl, rfl⟩
  | cons effect rest after =>
    cases effect with
    | startStreaming source =>
      obtain ⟨endpoint, subscribed⟩ := after (e.tryStreaming link source)
      obtain ⟨sameEndpoint, sameSubscribed⟩ := starting source e
      exact ⟨endpoint.trans sameEndpoint, subscribed.trans sameSubscribed⟩
    | send frame => exact after e
    | notify n => exact after e
    | commit outcome => exact after e

/-- A recognizer keeps its endpoint, and once connected it is known. -/
theorem Move.connection {ep : Episode} (move : Move ep e e') :
    e'.endpoint = e.endpoint ∧ (e.subscribed = true → e'.subscribed = true) := by
  cases move with
  | stopped =>
    rw [stopStreamer_eq]
    exact ⟨rfl, id⟩
  | forgotten =>
    rw [forget_eq]
    exact ⟨rfl, id⟩
  | connected => exact ⟨rfl, fun _ => rfl⟩
  | dispatched =>
    obtain ⟨endpoint, subscribed⟩ := startStreams_connection _ _ (ep.start.onHandle _)
    exact ⟨endpoint, subscribed.trans⟩
  | given =>
    rw [giveOutcome, stopStreamer_eq]
    exact ⟨rfl, id⟩
  | _ => exact ⟨rfl, id⟩

theorem Moves.connection {ep : Episode} (moves : Moves ep e e') :
    e'.endpoint = e.endpoint ∧ (e.subscribed = true → e'.subscribed = true) :=
  moves.keep (P := fun later =>
      later.endpoint = e.endpoint ∧ (e.subscribed = true → later.subscribed = true))
    (fun move before =>
      ⟨move.connection.1.trans before.1, fun known => move.connection.2 (before.2 known)⟩)
    ⟨rfl, id⟩

theorem Chronicled.endpoint {first : Engine} {log : Chronicle} (run : Chronicled first e log) :
    e.endpoint = first.endpoint := by
  induction run with
  | start => rfl
  | attach source _ before => exact before
  | @step e _ depth outside operation _ before =>
    exact (step_moves depth outside operation e).connection.1.trans before

/-- What was never connected has no session and no thread. -/
structure Grounded (e : Engine) : Prop where
  known : e.isOpen = true → e.subscribed = true
  state : e.subscribed = false → e.handle.state = .none
  streamer : e.subscribed = false → e.handle.streamer = none

theorem Grounded.of_known (known : e.subscribed = true) : e.Grounded := by
  refine ⟨fun _ => known, fun unknown => ?_, fun unknown => ?_⟩
  · rw [known] at unknown
    cases unknown
  · rw [known] at unknown
    cases unknown

theorem Grounded.congr (grounded : e.Grounded) (isOpen : e'.isOpen = true → e.isOpen = true)
    (subscribed : e'.subscribed = e.subscribed) (state : e'.handle.state = e.handle.state)
    (streamer : e'.handle.streamer = e.handle.streamer) : e'.Grounded := by
  refine ⟨fun connected => ?_, fun unknown => ?_, fun unknown => ?_⟩
  · rw [subscribed]
    exact grounded.known (isOpen connected)
  · rw [state]
    exact grounded.state (subscribed ▸ unknown)
  · rw [streamer]
    exact grounded.streamer (subscribed ▸ unknown)

theorem Grounded.move {ep : Episode} (grounded : e.Grounded) (move : Move ep e e') :
    e'.Grounded := by
  cases move with
  | stopped =>
    rw [stopStreamer_eq]
    exact ⟨grounded.known, grounded.state, fun _ => rfl⟩
  | hungUp => exact ⟨nofun, grounded.state, grounded.streamer⟩
  | forgotten =>
    rw [forget_eq]
    exact ⟨grounded.known, fun _ => rfl, grounded.streamer⟩
  | @recorded _ outcome =>
    exact grounded.congr id rfl (e.handle.commit_state outcome) (e.handle.commit_streamer outcome)
  | connected => exact .of_known rfl
  | dispatched link brought =>
    -- An event is brought to whom the connection knows.
    have known : ep.start.subscribed = true := by
      unfold Episode.event? at brought
      split at brought
      · split at brought
        next known => exact known
        · cases brought
      · cases brought
    exact .of_known ((startStreams_connection _ _ (ep.start.onHandle _)).2.trans known)
  | given =>
    rw [giveOutcome, stopStreamer_eq]
    exact ⟨grounded.known, grounded.state, fun _ => rfl⟩
  | sessionLost => exact ⟨grounded.known, fun _ => rfl, grounded.streamer⟩
  | disconnected => exact ⟨nofun, grounded.state, grounded.streamer⟩
  | _ => exact grounded.congr id rfl rfl rfl

theorem Grounded.moves {ep : Episode} (grounded : e.Grounded) (moves : Moves ep e e') :
    e'.Grounded :=
  moves.keep (fun move grounded => grounded.move move) grounded

theorem sendFirst_known (link : Link) (grounded : e.Grounded) :
    (sendFirst link e).2.subscribed = true ∨ ∃ refusal,
      link.refuseOpen e.endpoint = some refusal ∧
        (sendFirst link e).1 = some refusal.error := by
  have sending (frame : Frame) (e : Engine) :
      (send link frame e).2.subscribed = e.subscribed := by
    rw [send_snd]
    rfl
  have opening : (openConnection link e).2.subscribed = true ∨ ∃ refusal,
      link.refuseOpen e.endpoint = some refusal ∧
        (openConnection link e).1 = some refusal.error := by
    unfold openConnection
    split
    next connected => exact .inl (grounded.known connected)
    · dsimp only
      split
      next refusal refused => exact .inr ⟨refusal, refused, rfl⟩
      · exact .inl rfl
  unfold sendFirst
  generalize openConnection link e = result at opening
  obtain ⟨failure, a⟩ := result
  cases failure with
  | some error => exact opening
  | none =>
    obtain known | ⟨_, _, failed⟩ := opening
    · dsimp only
      split
      · exact .inl ((sending _ a).trans known)
      · exact .inl known
    · cases failed

section Steps

variable {depth : Nat} {outside : Outside} {operation : Operation}

/-- Only where the connection is not made it does not know the recognizer after a request. -/
theorem recognize_known (depth : Nat) (outside : Outside) (source : SourceId)
    {model : LanguageModel} (usable : model.usable = true) (idle : e.handle.active = false)
    (grounded : e.Grounded) :
    (e.step depth outside (.recognize source model)).2.subscribed = true ∨ ∃ refusal,
      outside.refuseOpen e.endpoint = some refusal ∧
        (e.step depth outside (.recognize source model)).1 =
          .reply (.failed refusal.error) := by
  have begun : (e.onHandle (·.begin source model)).Grounded := grounded.congr id rfl rfl rfl
  have sent := sendFirst_known outside.toLink begun
  simp only [step, recognize_of_idle outside.toLink (notifyAll outside depth) source usable idle]
  generalize sendFirst outside.toLink (e.onHandle (·.begin source model)) = result at sent
  obtain ⟨failure, a⟩ := result
  cases failure with
  | none =>
    obtain known | ⟨_, _, failed⟩ := sent
    · exact .inl known
    · cases failed
  | some error =>
    obtain known | ⟨refusal, refused, failed⟩ := sent
    · have telling : Telling (aside a) (notifyAll outside depth) := notifyAll_telling outside depth
      exact .inl ((telling.moves (.error error) a List.prefix_rfl).connection.2 known)
    · cases failed
      exact .inr ⟨refusal, refused, rfl⟩

theorem step_idle (grounded : e.Grounded)
    (idle : e.subscribed = false → e.handle.recognizing = false)
    (unknown : (e.step depth outside operation).2.subscribed = false) :
    (e.step depth outside operation).2.handle.recognizing = false := by
  -- Only a request can begin a recognition, and one that is still unknown after it has failed.
  have before : e.subscribed = false := Bool.eq_false_iff.mpr fun known => by
    rw [(step_moves depth outside operation e).connection.2 known] at unknown
    cases unknown
  by_cases asked : ∃ source model, operation = .recognize source model
  · obtain ⟨source, model, rfl⟩ := asked
    by_cases kept : model.usable = false ∨ e.handle.active = true
    · rw [recognize_turned_away depth outside source kept]
      exact idle before
    · obtain ⟨usable, unguarded⟩ : model.usable = true ∧ e.handle.active = false := by
        simpa using kept
      obtain known | ⟨refusal, -, failed⟩ :=
        recognize_known depth outside source usable unguarded grounded
      · rw [known] at unknown
        cases unknown
      · obtain ⟨_, same⟩ | ⟨_, ⟨accepted, _⟩ | ⟨_, ended⟩⟩ :=
          recognize_cases depth outside source model e
        · rw [same]
          exact idle before
        · rw [accepted] at failed
          cases failed
        · exact ended
  · refine Bool.eq_false_iff.mpr fun running => ?_
    have ran := (step_flags fun source model same => asked ⟨source, model, same⟩).1 running
    exact Bool.eq_false_iff.mp (idle before) ran

def Opens (depth : Nat) (outside : Outside) (operation : Operation) (e : Engine) : Prop :=
  .opened e.endpoint ∈ (e.step depth outside operation).2.seenSince e ∧
    outside.refuseOpen e.endpoint = none

theorem Opens.known (opens : e.Opens depth outside operation) (grounded : e.Grounded) :
    (e.step depth outside operation).2.subscribed = true := by
  obtain ⟨seen, accepting⟩ := opens
  -- Callbacks cannot open a connection, so the operation itself asked for it.
  have asked : ∃ source model, operation = .recognize source model := by
    refine (step_moves depth outside operation e).forall_seen
      (P := fun o => (∃ endpoint, o = .opened endpoint) →
        ∃ source model, operation = .recognize source model)
      (fun observes => ?_) (by simp) _ seen ⟨_, rfl⟩
    rintro ⟨endpoint, rfl⟩
    cases observes with
    | opened asked => exact ⟨_, _, asked⟩
  obtain ⟨source, model, rfl⟩ := asked
  by_cases kept : model.usable = false ∨ e.handle.active = true
  · rw [recognize_turned_away depth outside source kept, seenSince_self] at seen
    cases seen
  · obtain ⟨usable, idle⟩ : model.usable = true ∧ e.handle.active = false := by simpa using kept
    obtain known | ⟨reason, refused, -⟩ := recognize_known depth outside source usable idle grounded
    · exact known
    · rw [accepting] at refused
      cases refused

end Steps

/-! ## Side by side with a new one -/

def renewal (settings : Settings) (known : Bool) (before after : List Observation) : Guise where
  own := { settings with connectOnRecognize := true }
  other := settings
  userAgent := rfl
  maxWait := rfl
  protocol := rfl
  parameters := rfl
  known
  reaction := id
  reaction_done := rfl
  traces own other := ∃ more, own = before ++ more ∧ other = after ++ more
  concat := by
    rintro _ _ o - ⟨more, rfl, rfl⟩
    exact ⟨more ++ [o], by simp⟩

variable {settings : Settings} {known : Bool} {before after : List Observation}

namespace Alike

theorem recordSame (alike : Alike (renewal settings known before after) e e') (o : Observation) :
    Alike (renewal settings known before after) (e.observe o) (e'.observe o) := by
  obtain ⟨more, own, other⟩ := alike.traces
  exact alike.record ⟨more ++ [o], by rw [own, List.append_assoc], by rw [other, List.append_assoc]⟩

theorem autoClose (alike : Alike (renewal settings known before after) e e') (link : Link) :
    Alike (renewal settings known before after) (Engine.autoClose link e)
      (Engine.autoClose link e') := by
  have same : e'.settings.autoClose = e.settings.autoClose := by
    obtain ⟨own, other⟩ := alike.settings
    rw [own, other]
    rfl
  unfold Engine.autoClose
  rw [same]
  split
  · exact alike.close link
  · exact alike

theorem cancelSame {notify notify' : Notify}
    (tells : Tells (renewal settings known before after) notify notify') (link : Link)
    (alike : Alike (renewal settings known before after) e e') :
    Agree (renewal settings known before after) (Engine.cancel link notify e)
      (Engine.cancel link notify' e') := by
  obtain ⟨error, _, _, failed, came, came'⟩ | ⟨_, _, canceled, came, came'⟩ :=
    alike.cancel tells link
  · rw [came, came']
    exact .intro _ failed
  · rw [came, came']
    exact .intro _ (canceled.autoClose link)

end Alike

theorem renewal_responsive (link : Link) :
    Responsive (renewal settings known before after) link := by
  intro notify notify' tells reaction e e' alike
  -- On the reaction: what its first action replies is the same for both, and so is what follows.
  induction reaction generalizing e e' with
  | done => exact alike
  | act action next following =>
    have acted : Agree (renewal settings known before after) (act link notify action e)
        (act link notify' action e') := by
      by_cases asked : action = .cancel
      · subst asked
        have canceled := alike.cancelSame tells link
        unfold act
        generalize cancel link notify e = result at canceled
        generalize cancel link notify' e' = result' at canceled
        obtain ⟨failure, alike⟩ := canceled
        exact .intro _ (alike.recordSame _)
      · exact alike.act link notify notify' asked fun same => same.recordSame _
    change Alike _ (react link notify (.act action next) e)
      (react link notify' (.act action next) e')
    unfold react
    generalize act link notify action e = result at acted
    generalize act link notify' action e' = result' at acted
    obtain ⟨reply, alike⟩ := acted
    exact following reply alike

/-- News of a loss are no news to a recognizer that has nothing. -/
theorem connectionClosed_of_blank (notify : Notify) (reason : String)
    (state : e.handle.state = .none) (streamer : e.handle.streamer = none)
    (idle : e.handle.recognizing = false) :
    connectionClosed notify reason e = { e with isOpen := false } := by
  have unchanged : (e.onHandle fun h => { h with state := .none }) = e := by
    have handle : ({ e.handle with state := .none } : Handle) = e.handle := by rw [← state]
    exact congrArg (fun handle => { e with handle }) handle
  have still : e.stopStreamer = e := by simp only [stopStreamer, streamer]
  simp only [connectionClosed, idle, unchanged, still, Bool.false_eq_true, if_false]

/-- No message comes before the connection is opened. -/
def Unheard (depth : Nat) : List (Outside × Operation) → Engine → Prop
  | [], _ => True
  | (outside, operation) :: rest, e => (∀ octets, operation ≠ .message octets) ∧
      (e.Opens depth outside operation ∨
        Unheard depth rest (e.step depth outside operation).2)

section Steps

variable {depth : Nat} {outside : Outside} {operation : Operation}

/-- Operations do the same to both, if news reach both or neither. -/
theorem Alike.stepReached (alike : Alike (renewal settings known before after) e e')
    (reached : operation.isNews = true → e'.subscribed = e.subscribed) :
    Agree (renewal settings known before after) (e.step depth outside operation)
      (e'.step depth outside operation) := by
  have responsive : Responsive (renewal settings known before after) outside.toLink :=
    renewal_responsive outside.toLink
  by_cases waited : operation = .wait
  · subst waited
    obtain ⟨came, came', -⟩ | ⟨outcome, _, _, taken, came, came', -⟩ :=
      alike.waitResult outside.toLink
    · simp only [Engine.step, came, came']
      exact .intro _ alike
    · simp only [Engine.step, came, came']
      exact .intro _ (taken.autoClose outside.toLink)
  · by_cases canceled : operation = .cancel
    · subst canceled
      have canceled := alike.cancelSame (Alike.notifyAll responsive depth) outside.toLink
      exact canceled.map fun failure => Answer.reply (replyOf failure)
    · exact alike.step responsive depth ⟨waited, canceled⟩ reached

/-- The loss of a connection that was never made means nothing to either. -/
theorem Alike.stepLost (alike : Alike (renewal settings known before after) e e') {reason : String}
    (grounded : e.Grounded) (idle : e.handle.recognizing = false)
    (unknown : e.subscribed = false) :
    Alike (renewal settings known before after) (e.step depth outside (.lost reason)).2
      (e'.step depth outside (.lost reason)).2 := by
  have lost : (e.step depth outside (.lost reason)).2 = { e with isOpen := false } := by
    simp only [Engine.step, unknown, Bool.false_eq_true, if_false]
  have lost' : (e'.step depth outside (.lost reason)).2 = { e' with isOpen := false } := by
    simp only [Engine.step]
    split
    · refine connectionClosed_of_blank _ reason ?_ ?_ ?_
      · rw [alike.handle, grounded.state unknown]
      · rw [alike.handle, grounded.streamer unknown]
      · rw [alike.handle, idle]
    · rfl
  rw [lost, lost']
  exact alike.disconnect

theorem Alike.seenSince {a a' : Engine} (alike : Alike (renewal settings known before after) e e')
    (later : Alike (renewal settings known before after) a a') :
    a'.seenSince e' = a.seenSince e := by
  obtain ⟨more, own, other⟩ := alike.traces
  obtain ⟨further, laterOwn, laterOther⟩ := later.traces
  unfold Engine.seenSince
  rw [own, other, laterOwn, laterOther, List.length_append, List.length_append,
    ← List.drop_drop, ← List.drop_drop, List.drop_left, List.drop_left]

theorem Alike.stepRenewed (depth : Nat) (outside : Outside)
    (alike : Alike (renewal settings known before after) e e') (grounded : e.Grounded)
    (idle : e.subscribed = false → e.handle.recognizing = false)
    (heard : e.subscribed = true ∨ ∀ octets, operation ≠ .message octets) :
    Alike (renewal settings known before after) (e.step depth outside operation).2
        (e'.step depth outside operation).2 ∧
      (operation.isNews = false →
        (e'.step depth outside operation).1 = (e.step depth outside operation).1) := by
  have agreed (reached : operation.isNews = true → e'.subscribed = e.subscribed) :
      (e'.step depth outside operation).1 = (e.step depth outside operation).1 ∧
        Alike (renewal settings known before after) (e.step depth outside operation).2
          (e'.step depth outside operation).2 :=
    ⟨(alike.stepReached reached).fst, (alike.stepReached reached).snd⟩
  cases reached : e.subscribed with
  | true =>
    have both : e'.subscribed = e.subscribed := by
      rw [alike.subscribed, reached, Bool.or_true]
    exact ⟨(agreed fun _ => both).2, fun _ => (agreed fun _ => both).1⟩
  | false =>
    cases operation with
    | message octets =>
      obtain known | unheard := heard
      · rw [known] at reached
        cases reached
      · exact absurd rfl (unheard octets)
    | lost reason => exact ⟨alike.stepLost grounded (idle reached) reached, nofun⟩
    | _ => exact ⟨(agreed nofun).2, fun _ => (agreed nofun).1⟩

end Steps

/-- What a closed recognizer does is what a new one does, if no message comes before the connection
is opened. -/
theorem run_of_alike {depth : Nat} {operations : List (Outside × Operation)}
    (alike : Alike (renewal settings known before after) e e') (grounded : e.Grounded)
    (idle : e.subscribed = false → e.handle.recognizing = false)
    (unheard : e.subscribed = true ∨ Unheard depth operations e') :
    Alike (renewal settings known before after) (run depth operations e).2
        (run depth operations e').2 ∧
      answersTo (fun line => !line.2.isNews) operations (run depth operations e').1 =
        answersTo (fun line => !line.2.isNews) operations (run depth operations e).1 := by
  -- On the operations: as long as the new one is unknown, no message has come to either.
  induction operations generalizing e e' with
  | nil => exact ⟨alike, rfl⟩
  | cons line rest following =>
    obtain ⟨outside, operation⟩ := line
    have heard : e.subscribed = true ∨ ∀ octets, operation ≠ .message octets :=
      unheard.imp_right fun unheard => unheard.1
    obtain ⟨later, answer⟩ := alike.stepRenewed depth outside grounded idle heard
    have moves := step_moves depth outside operation e
    have unheardLater : (e.step depth outside operation).2.subscribed = true ∨
        Unheard depth rest (e'.step depth outside operation).2 := by
      obtain known | ⟨-, opens | unheard⟩ := unheard
      · exact .inl (moves.connection.2 known)
      · -- What is seen of the opening is the same for the new one.
        have opens : e.Opens depth outside operation := by
          rw [Opens, alike.endpoint, alike.seenSince later] at opens
          exact opens
        exact .inl (opens.known grounded)
      · exact .inr unheard
    obtain ⟨state, answers⟩ :=
      following later (grounded.moves moves) (step_idle grounded idle) unheardLater
    refine ⟨state, ?_⟩
    simp only [run, answersTo_cons]
    cases news : operation.isNews with
    | true => exact answers
    | false => exact congrArg₂ List.cons (answer news) answers

/-- Where a recognizer can be made, one that is not connected yet can be made as well. -/
theorem create_unconnected {link : Link} {settings : Settings} {listeners : Nat} {first : Engine}
    {seen : List Observation} (made : create link settings listeners = (.ok first, seen)) :
    first.settings = settings ∧ first.listeners = listeners ∧
      ∀ link, create link { settings with connectOnRecognize := true } listeners =
        (.ok {
          settings := { settings with connectOnRecognize := true }
          endpoint := first.endpoint
          listeners }, []) := by
  unfold create at made ⊢
  cases address : Url.ofServer settings.url with
  | error fault =>
    rw [address] at made
    cases made
  | ok url =>
    simp only [address, if_true] at made ⊢
    have same : first.settings = settings ∧ first.listeners = listeners ∧
        first.endpoint = {
          url
          authorization := settings.credentials.map (·.authorization)
          connectTimeout := settings.connectTimeout } := by
      split at made
      · cases made
        exact ⟨rfl, rfl, rfl⟩
      · unfold openConnection at made
        simp only [Bool.false_eq_true, if_false] at made
        split at made
        next opened =>
          split at opened
          · cases opened
          · cases opened
            cases made
            exact ⟨rfl, rfl, rfl⟩
        · cases made
    exact ⟨same.1, same.2.1, fun link => by rw [same.2.2]⟩

theorem alike_of_closed {settings : Settings} {listeners : Nat} {endpoint : Endpoint}
    (kept : e.settings = settings ∧ e.listeners = listeners ∧ e.endpoint = endpoint)
    (forgotten : e.handle = {}) (shut : e.isOpen = false) (still : e.threads = [])
    (sources : List AudioSource) :
    Alike (renewal settings e.subscribed [] e.trace)
      { settings := { settings with connectOnRecognize := true }
        endpoint, listeners, sources
        nextThread := e.nextThread }
      { e with sources } := by
  obtain ⟨own, listeners, endpoint⟩ := kept
  have unchanged : sources.map (AudioSource.mapReactions id) = sources :=
    List.map_id'' AudioSource.mapReactions_id sources
  have image : { e with sources } = (renewal settings e.subscribed [] e.trace).image e.trace
      { settings := { settings with connectOnRecognize := true }
        endpoint := e.endpoint
        listeners := e.listeners
        sources
        nextThread := e.nextThread } := by
    simp only [own, forgotten, still, shut, Guise.image, renewal, unchanged, Bool.or_false]
  rw [image, ← listeners, ← endpoint]
  exact ⟨e.trace, rfl, [], rfl, (List.append_nil _).symm⟩

/-- A close leaves the handle as it was at first, no thread and no connection; what the recognition
had is closed, and the session is released exactly if there was one and the connection was open,
before that is closed and whether the frame is taken or not.  A second close does nothing.  From
then on, as long as no message comes before the connection is opened, all that can be seen and all
that callers are given is the same as of a new recognizer with these settings that is not connected
yet.  The sources are those of the application, and threads have the numbers that are next in both.
-/
theorem close_renews {link : Link} {settings : Settings} {listeners : Nat} {first e : Engine}
    {seen : List Observation} {log : Chronicle}
    (made : create link settings listeners = (.ok first, seen)) (run : Chronicled first e log)
    (parting : Link) :
    let closed := close parting e
    closed.handle = {} ∧ closed.threads = [] ∧ closed.isOpen = false ∧
    (∀ i, closed.sources[i]? =
      if i ∈ e.heldSources then e.sources[i]?.map AudioSource.close else e.sources[i]?) ∧
    closed.seenSince e = closings (e.handle.streamer.map (·.source)) ++
      partings parting e.isOpen (e.handle.state ≠ .none) ++ closings e.handle.audioSource ∧
    (∀ link, close link closed = closed) ∧
    ∃ fresh, (∀ link, create link { settings with connectOnRecognize := true } listeners =
        (.ok fresh, [])) ∧
      ∀ depth operations sources,
        let reused : Engine := { closed with sources }
        let new : Engine := { fresh with sources, nextThread := closed.nextThread }
        Unheard depth operations reused →
        (Engine.run depth operations reused).2.seenSince reused =
            (Engine.run depth operations new).2.seenSince new ∧
          answersTo (fun line => !line.2.isNews) operations
              (Engine.run depth operations reused).1 =
            answersTo (fun line => !line.2.isNews) operations
              (Engine.run depth operations new).1 := by
  intro closed
  have held := (run.reachable (.new (create_new made))).held
  have still : closed.threads = [] := close_threads parting held
  have forgotten : closed.handle = {} := close_handle parting e
  have shut : closed.isOpen = false := close_isOpen parting e
  obtain ⟨own, same, created⟩ := create_unconnected made
  refine ⟨forgotten, still, shut, getElem?_close_sources parting e, close_seenSince parting e,
    fun link => close_of_closed link forgotten shut still, _, created, ?_⟩
  intro depth operations sources reused new unheard
  have kept : closed.settings = settings ∧ closed.listeners = listeners ∧
      closed.endpoint = first.endpoint := by
    obtain ⟨sameSettings, sameListeners⟩ := run.same
    have renewed := close_eq_renewed parting e
    exact ⟨(congrArg Engine.settings renewed).trans (sameSettings.trans own),
      (congrArg Engine.listeners renewed).trans (sameListeners.trans same),
      (congrArg Engine.endpoint renewed).trans run.endpoint⟩
  have alike : Alike (renewal settings closed.subscribed [] closed.trace) new reused :=
    alike_of_closed kept forgotten shut still sources
  have grounded : new.Grounded := ⟨nofun, fun _ => rfl, fun _ => rfl⟩
  obtain ⟨later, answers⟩ := run_of_alike alike grounded (fun _ => rfl) (.inr unheard)
  exact ⟨alike.seenSince later, answers⟩

/-- A recognition is closed while it runs, and another one begins on the same source. -/
theorem close_renews_running :
    let settings : Settings := { url := "ws://[::1]/" }
    let outside : Outside := { Link.reliable with }
    let reply := utf8 "ASR 2.4 RESPONSE\r\nMethod: CREATE_SESSION\r\nResult: SUCCESS\r\n\r\n"
    let operations := [(outside, Operation.recognize 0 (.ofUri "builtin:slm")),
      (outside, .message reply), (outside, .wait)]
    ∃ first, create Link.reliable settings 1 = (.ok first, first.trace) ∧
      let begun := (run 0 operations first).2
      let closed := close Link.reliable begun
      begun.handle.state = .idle ∧ closed.handle = {} ∧
        .sent Request.releaseSession ∈ closed.seenSince begun ∧
      ∃ fresh, create Link.reliable { settings with connectOnRecognize := true } 1 =
          (.ok fresh, []) ∧
        let new : Engine :=
          { fresh with sources := closed.sources, nextThread := closed.nextThread }
        (run 0 operations closed).2.seenSince closed = (run 0 operations new).2.seenSince new := by
  intro settings outside reply operations
  let url : Url := { scheme := "ws", text := "ws://[::1]/", hasHost := true }
  have address : Url.ofServer settings.url = .ok url := by decide +kernel
  let endpoint : Endpoint := { url, authorization := none, connectTimeout := .ofSeconds 10 }
  let first : Engine :=
    { settings, endpoint, listeners := 1, isOpen := true, subscribed := true
      trace := [.opened endpoint] }
  have made : create Link.reliable settings 1 = (.ok first, first.trace) := by
    unfold create
    rw [address]
    rfl
  refine ⟨first, made, ?_⟩
  intro begun closed
  have ran : Chronicled first begun _ :=
    ((Chronicled.start.step 0 outside (.recognize 0 (.ofUri "builtin:slm"))).step 0 outside
      (.message reply)).step 0 outside .wait
  obtain ⟨forgotten, -, -, -, -, -, fresh, created, side⟩ := close_renews made ran Link.reliable
  have unheard : Unheard 0 operations closed := by
    refine ⟨nofun, .inl ⟨?_, rfl⟩⟩
    decide +kernel
  exact ⟨by decide +kernel, forgotten, by decide +kernel, fresh, created Link.reliable,
    (side 0 operations closed.sources unheard).1⟩

end Engine

end SpeechClient
