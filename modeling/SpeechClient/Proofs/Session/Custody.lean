import SpeechClient.Proofs.Session.Announcement
import SpeechClient.Proofs.Session.Streams

/-!
# Sources in hand

A recognizer has two sources in hand at most: that of the recognition, and that which its thread
streams.  Each move says what it does to the two, and a source that is in hand stays so or is closed.

- `Engine.InHand`: a source that the recognizer still knows.
- `Engine.Handling`: what a move does to the sources in hand.
- `Engine.Moves.closed_or`: a source in hand is kept or closed.
- `Engine.Moves.unknown`: one that is not comes to hand only by a recognition.
-/

namespace SpeechClient

namespace Engine

variable {ep : Episode} {e e' : Engine} {i : SourceId} {link : Link} {notify : Notify}

/-! ## What moves do to sources -/

def streamed (e : Engine) : Option SourceId :=
  e.handle.streamer.map (·.source)

/-- What a move does to the sources that the handle knows, and the source that it closes. -/
inductive Handling (ep : Episode) (e e' : Engine) : Option SourceId → Prop where
  | kept : e'.handle.audioSource = e.handle.audioSource → e'.streamed = e.streamed →
      Handling ep e e' none
  | stopped : e'.handle.audioSource = e.handle.audioSource → e'.streamed = none →
      Handling ep e e' e.streamed
  | forgotten : e.streamed = none → e'.handle.audioSource = none → e'.streamed = none →
      Handling ep e e' e.handle.audioSource
  | begun {source : SourceId} {model : LanguageModel} : ep.operation = .recognize source model →
      e'.handle.audioSource = some source → e'.streamed = e.streamed → Handling ep e e' none
  | started {event : Inbound} {source : SourceId} : ep.event? = some event →
      event.starts = true → e.handle.audioSource = some source →
      e'.handle.audioSource = some source → e'.streamed = some source →
      Handling ep e e' e.streamed

theorem mem_closings {source : Option SourceId} :
    .audioClosed i ∈ closings source ↔ source = some i := by
  simp [closings, eq_comm]

/-- With the start of a recognition its source goes to a new thread, if there is one, and that of the
old thread is closed. -/
theorem dispatch_of_starts_with (link : Link) {event : Inbound} (starts : event.starts = true)
    {source : SourceId} (audio : e.handle.audioSource = some source) :
    (e.dispatch link event).handle.audioSource = some source ∧
      (e.dispatch link event).streamed =
        (if link.threadFailure.isSome then none else some source) ∧
      (e.dispatch link event).trace = e.trace ++ closings e.streamed := by
  let changed := e.onHandle fun h => (h.transition event e.settings.parameters).1
  obtain ⟨state, pending, fields, -⟩ := e.handle.transition_fields event e.settings.parameters
  have handle : changed.handle = { e.handle with state, cancelPending := pending } := fields
  have dispatched : e.dispatch link event = changed.tryStreaming link source := by
    rw [dispatch_of_starts starts, audio]
    rfl
  have same : changed.handle.streamer = e.handle.streamer := by rw [handle]
  rw [dispatched, streamed, tryStreaming_trace, same]
  unfold tryStreaming
  cases link.threadFailure with
  | some error =>
    rw [stopStreamer_handle, handle]
    exact ⟨audio, rfl, rfl⟩
  | none =>
    have streaming := congrArg Face.handle (startStreaming_face changed source)
    change (changed.startStreaming source).handle = _ at streaming
    rw [streaming, handle]
    exact ⟨audio, rfl, rfl⟩

theorem dispatch_handling {event : Inbound} (brought : ep.event? = some event) :
    ∃ closed, (e.dispatch link event).trace = e.trace ++ closings closed ∧
      Handling ep e (e.dispatch link event) closed := by
  obtain ⟨state, pending, fields, -⟩ := e.handle.transition_fields event e.settings.parameters
  have unstreamed (same : e.dispatch link event =
      e.onHandle fun h => (h.transition event e.settings.parameters).1) :
      ∃ closed, (e.dispatch link event).trace = e.trace ++ closings closed ∧
        Handling ep e (e.dispatch link event) closed := by
    rw [same]
    refine ⟨none, (List.append_nil _).symm, .kept ?_ ?_⟩
    · change (e.handle.transition event e.settings.parameters).1.audioSource = _
      rw [fields]
    · change (e.handle.transition event e.settings.parameters).1.streamer.map _ = _
      rw [fields]
      rfl
  cases starts : event.starts with
  | false => exact unstreamed (dispatch_of_not_starts starts)
  | true =>
    cases audio : e.handle.audioSource with
    | none =>
      refine unstreamed ?_
      rw [dispatch_of_starts starts, audio]
      rfl
    | some source =>
      obtain ⟨audio', streamed, seen⟩ := dispatch_of_starts_with link starts audio
      cases refused : link.threadFailure.isSome with
      | true =>
        rw [refused, if_pos rfl] at streamed
        exact ⟨_, seen, .stopped (audio'.trans audio.symm) streamed⟩
      | false =>
        rw [refused, if_neg (by decide)] at streamed
        exact ⟨_, seen, .started brought starts audio audio' streamed⟩

theorem stopStreamer_streamed (e : Engine) : e.stopStreamer.streamed = none := by
  rw [streamed, stopStreamer_handle]
  rfl

theorem Move.handling (move : Move ep e e') : ∃ closed,
    (∀ i, .audioClosed i ∈ e'.seenSince e ↔ closed = some i) ∧ Handling ep e e' closed := by
  have closing {closed : Option SourceId} (seen : e'.trace = e.trace ++ closings closed)
      (handling : Handling ep e e' closed) : ∃ closed,
      (∀ i, .audioClosed i ∈ e'.seenSince e ↔ closed = some i) ∧ Handling ep e e' closed :=
    ⟨closed, fun i => by rw [seenSince_of_trace seen, mem_closings], handling⟩
  have silent (seen : e'.trace = e.trace) (handling : Handling ep e e' none) : ∃ closed,
      (∀ i, .audioClosed i ∈ e'.seenSince e ↔ closed = some i) ∧ Handling ep e e' closed :=
    closing (seen.trans (List.append_nil _).symm) handling
  cases move with
  | @observed _ o observes =>
    refine ⟨none, fun i => ?_, .kept rfl rfl⟩
    have seen : (e.observe o).seenSince e = [o] := seenSince_of_trace rfl
    rw [seen, List.mem_singleton]
    refine ⟨fun same => ?_, fun none => nomatch none⟩
    subst same
    cases observes
  | stopped =>
    refine closing (stopStreamer_trace e) (.stopped ?_ (stopStreamer_streamed e))
    rw [stopStreamer_handle]
  | forgotten idle =>
    have unstreamed : e.streamed = none := by rw [streamed, idle]; rfl
    refine closing (forget_trace e) (.forgotten unstreamed ?_ ?_)
    · rw [forget_handle]
      rfl
    · rw [streamed, forget_handle]
      exact unstreamed
  | recorded =>
    refine silent rfl (.kept (Handle.commit_audioSource ..) ?_)
    exact congrArg (Option.map _) (Handle.commit_streamer ..)
  | begun asked => exact silent rfl (.begun asked rfl rfl)
  | dispatched link brought =>
    obtain ⟨closed, seen, handling⟩ := dispatch_handling (e := ep.start) brought
    exact closing seen handling
  | given =>
    refine closing (stopStreamer_trace ep.start) (.stopped ?_ ?_)
    · rw [giveOutcome_handle]
      rfl
    · rw [streamed, giveOutcome_handle]
      rfl
  | _ => exact silent rfl (.kept rfl rfl)

/-! ## What rows of moves do to sources -/

/-- What a move keeps unless it closes the source, a row keeps unless it closes it. -/
theorem Moves.closed_or {P : Engine → Prop}
    (one : ∀ {a b}, Move ep a b → P a → .audioClosed i ∈ b.seenSince a ∨ P b)
    (moves : Moves ep e e') (before : P e) : .audioClosed i ∈ e'.seenSince e ∨ P e' := by
  refine moves.keepOn (P := fun a => .audioClosed i ∈ a.seenSince e ∨ P a) ?_ (.inr before)
  intro a b earlier move kept
  cases kept with
  | inl closed => exact .inl (mem_seenSince_of_grown move.grows closed)
  | inr kept =>
    cases one move kept with
    | inl closed =>
      rw [seenSince_trans earlier.grows move.grows]
      exact .inl (List.mem_append_right _ closed)
    | inr kept => exact .inr kept

def InHand (i : SourceId) (e : Engine) : Prop :=
  e.handle.audioSource = some i ∨ e.streamed = some i

theorem not_inHand_of_forgotten (forgotten : e.handle = {}) : ¬e.InHand i := by
  simp [InHand, streamed, forgotten]

/-- A thread that is given up closes its source. -/
theorem Move.streamed (move : Move ep e e') (streams : e.streamed = some i) :
    .audioClosed i ∈ e'.seenSince e ∨ e'.streamed = some i := by
  obtain ⟨closed, seen, handling⟩ := move.handling
  rw [seen]
  cases handling with
  | kept _ same => exact .inr (same.trans streams)
  | stopped => exact .inl streams
  | forgotten idle => cases idle.symm.trans streams
  | begun _ _ same => exact .inr (same.trans streams)
  | started => exact .inl streams

/-- Only the beginning of the next recognition gives up a source without closing it. -/
theorem Move.inHand (move : Move ep e e')
    (other : ∀ source model, ep.operation ≠ .recognize source model) (inHand : e.InHand i) :
    .audioClosed i ∈ e'.seenSince e ∨ e'.InHand i := by
  obtain ⟨closed, seen, handling⟩ := move.handling
  rw [seen]
  cases handling with
  | kept audio same => exact .inr (by rwa [InHand, audio, same])
  | stopped audio idle =>
    cases inHand with
    | inl known => exact .inr (.inl (audio.trans known))
    | inr streams => exact .inl streams
  | forgotten idle =>
    cases inHand with
    | inl known => exact .inl known
    | inr streams => cases idle.symm.trans streams
  | begun asked => exact absurd asked (other _ _)
  | started _ _ known audio _ =>
    cases inHand with
    | inl same => exact .inr (.inl (audio.trans (known.symm.trans same)))
    | inr streams => exact .inl streams

/-- A source that is not in hand is not taken in hand or closed before it is given again. -/
theorem Move.unknown (move : Move ep e e') (other : ∀ model, ep.operation ≠ .recognize i model)
    (unknown : ¬e.InHand i) : .audioClosed i ∉ e'.seenSince e ∧ ¬e'.InHand i := by
  obtain ⟨closed, seen, handling⟩ := move.handling
  obtain ⟨unheld, unstreamed⟩ := not_or.mp unknown
  rw [seen, InHand, not_or]
  cases handling with
  | kept audio same => exact ⟨by simp, by rwa [audio], by rwa [same]⟩
  | stopped audio idle => exact ⟨unstreamed, by rwa [audio], by simp [idle]⟩
  | forgotten _ audio idle => exact ⟨unheld, by simp [audio], by simp [idle]⟩
  | begun asked audio same =>
    refine ⟨by simp, fun given => ?_, by rwa [same]⟩
    cases audio.symm.trans given
    exact other _ asked
  | started _ _ known audio streams =>
    rw [known] at unheld
    exact ⟨unstreamed, by rwa [audio], by rwa [streams]⟩

theorem Moves.unknown (moves : Moves ep e e') (other : ∀ model, ep.operation ≠ .recognize i model)
    (unknown : ¬e.InHand i) : .audioClosed i ∉ e'.seenSince e ∧ ¬e'.InHand i := by
  refine moves.keepOn (P := fun a => .audioClosed i ∉ a.seenSince e ∧ ¬a.InHand i) ?_
    ⟨by simp [seenSince_self], unknown⟩
  rintro a b earlier move ⟨unclosed, unknown⟩
  obtain ⟨still, later⟩ := move.unknown other unknown
  rw [seenSince_trans earlier.grows move.grows, List.mem_append, not_or]
  exact ⟨⟨unclosed, still⟩, later⟩

/-- A source that is that of the recognition after a move was so before, and if no thread streams it
then none does after the move, unless the server says that the recognition has started. -/
theorem Move.pending (move : Move ep e e')
    (other : ∀ source model, ep.operation ≠ .recognize source model)
    (unstarted : ∀ event, ep.event? = some event → event.starts = false)
    (known : e'.handle.audioSource = some i) : e.handle.audioSource = some i ∧
      (e.streamed ≠ some i → e'.streamed ≠ some i ∧ .audioClosed i ∉ e'.seenSince e) := by
  obtain ⟨closed, seen, handling⟩ := move.handling
  rw [seen]
  cases handling with
  | kept audio same => exact ⟨audio ▸ known, fun silent => ⟨by rwa [same], by simp⟩⟩
  | stopped audio idle => exact ⟨audio ▸ known, fun silent => ⟨by simp [idle], silent⟩⟩
  | forgotten _ audio => cases audio.symm.trans known
  | begun asked => exact absurd asked (other _ _)
  | started brought starts =>
    rw [unstarted _ brought] at starts
    cases starts

theorem Moves.pending (moves : Moves ep e e')
    (other : ∀ source model, ep.operation ≠ .recognize source model)
    (unstarted : ∀ event, ep.event? = some event → event.starts = false)
    (silent : e.streamed ≠ some i) (known : e'.handle.audioSource = some i) :
    e'.streamed ≠ some i ∧ .audioClosed i ∉ e'.seenSince e := by
  revert known
  refine moves.keepOn (P := fun a => a.handle.audioSource = some i →
    a.streamed ≠ some i ∧ .audioClosed i ∉ a.seenSince e) ?_
    fun _ => ⟨silent, by simp [seenSince_self]⟩
  intro a b earlier move before known
  obtain ⟨knownBefore, quiet⟩ := move.pending other unstarted known
  obtain ⟨silent, unclosed⟩ := before knownBefore
  obtain ⟨silent, still⟩ := quiet silent
  rw [seenSince_trans earlier.grows move.grows, List.mem_append, not_or]
  exact ⟨silent, unclosed, still⟩

/-- A close that comes to its end on the way has closed the source that was in hand. -/
theorem Moves.closed_of_closes (moves : Moves ep ep.start e)
    (other : ∀ source model, ep.operation ≠ .recognize source model)
    (inHand : ep.start.InHand i) {o : Observation} (member : o ∈ e.seenSince ep.start)
    (closes : (Entry.seen ep.operation o).closes ep.start.settings.autoClose = true) :
    .audioClosed i ∈ e.seenSince ep.start := by
  revert member
  refine moves.keepOn (P := fun a => o ∈ a.seenSince ep.start →
    .audioClosed i ∈ a.seenSince ep.start) ?_ (by simp [seenSince_self])
  intro a b earlier move before member
  refine mem_seenSince_of_grown move.grows ?_
  by_cases sooner : o ∈ a.seenSince ep.start
  · exact before sooner
  · rw [seenSince_trans earlier.grows move.grows] at member
    have now : o ∈ b.seenSince a := (List.mem_append.mp member).resolve_left sooner
    obtain ⟨o', observes, rfl⟩ | ⟨sources, seen⟩ := move.seen
    · have last : (a.observe o').seenSince a = [o'] := seenSince_of_trace rfl
      rw [last, List.mem_singleton] at now
      subst now
      -- Nothing is in hand any more, and the source was not given up without a close.
      rw [← earlier.same.1] at closes
      have forgotten := observes.forgotten closes
      exact (earlier.closed_or (fun move => move.inHand other) inHand).resolve_right
        (not_inHand_of_forgotten forgotten)
    · rw [seenSince_of_trace seen, List.mem_map] at now
      obtain ⟨source, -, rfl⟩ := now
      cases closes

end Engine

end SpeechClient
