import SpeechClient.Proofs.Session.Chronicle
import SpeechClient.Proofs.Session.Handshake

/-!
# Streaming threads

Whoever takes the streaming thread out of the handle stops it.  So a thread that runs is always that
of the handle, and where the handle has none, none runs.

- `Engine.Held`: the thread that runs is that of the handle.
- `Engine.Reachable.held`: it is, in all reachable states.
-/

namespace SpeechClient.Engine

/-- The thread that runs is that of the handle. -/
def Held (e : Engine) : Prop :=
  ∀ s ∈ e.threads, e.handle.streamer = some s

variable {e : Engine} {link : Link}

theorem Held.threads_eq_nil (held : e.Held) (idle : e.handle.streamer = none) : e.threads = [] := by
  refine List.eq_nil_iff_forall_not_mem.mpr fun s running => ?_
  have same := held s running
  rw [idle] at same
  cases same

theorem Held.of_threads_eq_nil (none : e.threads = []) : e.Held := by
  intro s running
  rw [none] at running
  cases running

theorem Held.congr {e' : Engine} (held : e.Held) (threads : ∀ s ∈ e'.threads, s ∈ e.threads)
    (streamer : e'.handle.streamer = e.handle.streamer) : e'.Held :=
  fun s running => streamer.trans (held s (threads s running))

theorem stopStreamer_threads (held : e.Held) : e.stopStreamer.threads = [] := by
  unfold stopStreamer
  split
  next s current =>
    refine List.filter_eq_nil_iff.mpr fun other running => ?_
    have same := held other running
    rw [current, Option.some.injEq] at same
    simp [same]
  next idle => exact held.threads_eq_nil idle

/-- The thread that runs after a start is the new one. -/
theorem startStreaming_threads (held : e.Held) (source : SourceId) :
    ∀ s ∈ (e.startStreaming source).threads, s = ⟨e.nextThread, source⟩ := by
  unfold startStreaming
  dsimp only
  split
  next old current =>
    intro s running
    obtain ⟨member, other⟩ : s ∈ e.threads ++ [⟨e.nextThread, source⟩] ∧ s ≠ old := by
      simpa only [stop, closeSource, observe, List.mem_filter, decide_eq_true_eq] using running
    cases List.mem_append.mp member with
    | inl member =>
      have same := held s member
      rw [current, Option.some.injEq] at same
      exact absurd same.symm other
    | inr member => exact List.mem_singleton.mp member
  next idle =>
    intro s running
    simpa [held.threads_eq_nil idle] using running

theorem startStreaming_held (held : e.Held) (source : SourceId) :
    (e.startStreaming source).Held := by
  intro s running
  rw [startStreaming_threads held source s running]
  exact congrArg (·.handle.streamer) (startStreaming_face e source)

theorem tryStreaming_held (link : Link) (held : e.Held) (source : SourceId) :
    (e.tryStreaming link source).Held := by
  unfold tryStreaming
  split
  · exact .of_threads_eq_nil (stopStreamer_threads held)
  · exact startStreaming_held held source

theorem startStreams_held (link : Link) (held : e.Held) (effects : List Effect) :
    (startStreams link effects e).Held := by
  unfold startStreams
  induction effects generalizing e with
  | nil => exact held
  | cons effect rest after =>
    cases effect with
    | startStreaming source => exact after (tryStreaming_held link held source)
    | send frame => exact after held
    | notify n => exact after held
    | commit outcome => exact after held

theorem Move.held {ep : Episode} {e' : Engine} (move : Move ep e e') (held : e.Held) :
    e'.Held := by
  cases move with
  | stopped => exact .of_threads_eq_nil (stopStreamer_threads held)
  | forgotten idle closed =>
    refine .of_threads_eq_nil ?_
    rw [forget_threads, held.threads_eq_nil idle]
  | @recorded _ outcome =>
    exact held.congr (fun _ => id) (e.handle.commit_streamer outcome)
  | @dispatched link event =>
    have dispatched : (ep.start.onHandle fun h =>
        (h.transition event ep.start.settings.parameters).1).Held := by
      obtain ⟨_, _, fields, -⟩ :=
        ep.start.handle.transition_fields event ep.start.settings.parameters
      have streamer : (ep.start.handle.transition event ep.start.settings.parameters).1.streamer =
          ep.start.handle.streamer := by rw [fields]
      exact held.congr (fun _ => id) streamer
    exact startStreams_held link dispatched _
  | given => exact .of_threads_eq_nil (stopStreamer_threads held)
  | threadEnded asked =>
    exact held.congr (fun _ running => List.mem_of_mem_filter running) rfl
  | _ => exact held.congr (fun _ => id) rfl

theorem startStreams_eq_self {effects : List Effect}
    (none : ∀ source, .startStreaming source ∉ effects) : startStreams link effects e = e := by
  unfold startStreams
  induction effects generalizing e with
  | nil => rfl
  | cons effect rest after =>
    have others : ∀ source, .startStreaming source ∉ rest := fun source member =>
      none source (by simp [member])
    cases effect with
    | startStreaming source => exact absurd (List.mem_cons_self ..) (none source)
    | send frame => exact after others
    | notify n => exact after others
    | commit outcome => exact after others

/-- Only the reply that the recognition has started starts a thread. -/
theorem dispatch_of_not_starts {event : Inbound} (other : event.starts = false) :
    e.dispatch link event = e.onHandle fun h => (h.transition event e.settings.parameters).1 := by
  refine startStreams_eq_self fun source asked => ?_
  cases Handle.transition_brings asked with
  | stream started =>
    rw [other] at started
    cases started

theorem dispatch_of_starts {event : Inbound} (starts : event.starts = true) :
    e.dispatch link event = startStreams link (e.handle.audioSource.toList.map .startStreaming)
      (e.onHandle fun h => (h.transition event e.settings.parameters).1) := by
  obtain ⟨told, effects, silent⟩ := Handle.effects_of_starts (h := e.handle) starts
  have both (streams : List Effect) (e : Engine) :
      startStreams link (told ++ streams) e =
        startStreams link streams (startStreams link told e) :=
    List.foldl_append
  rw [dispatch, effects, both, startStreams_eq_self silent]

/-- Only an event starts a thread, and that at the start of its episode. -/
theorem Move.threads {ep : Episode} {e' : Engine} (move : Move ep e e') :
    e'.threads ⊆ e.threads ∨
      e = ep.start ∧ ∃ event, ep.event? = some event ∧ event.starts = true := by
  have stopping (e : Engine) : e.stopStreamer.threads ⊆ e.threads := by
    unfold stopStreamer
    split
    · exact List.filter_subset_self _
    · exact List.Subset.refl _
  cases move with
  | stopped => exact .inl (stopping e)
  | forgotten => exact .inl (forget_threads e ▸ List.Subset.refl _)
  | @dispatched link event brought =>
    cases starts : event.starts with
    | true => exact .inr ⟨rfl, event, brought, starts⟩
    | false =>
      rw [dispatch_of_not_starts starts]
      exact .inl (List.Subset.refl _)
  | given => exact .inl (stopping ep.start)
  | threadEnded => exact .inl (List.filter_subset_self _)
  | _ => exact .inl (List.Subset.refl _)

theorem Move.idle {ep : Episode} {e' : Engine} (move : Move ep e e')
    (unbrought : ep.event? = none) (idle : e.handle.streamer = none) :
    e'.handle.streamer = none := by
  cases move with
  | stopped => rw [stopStreamer_handle]
  | forgotten =>
    rw [forget_handle]
    exact idle
  | @recorded _ outcome =>
    exact (e.handle.commit_streamer outcome).trans idle
  | dispatched link brought =>
    rw [unbrought] at brought
    cases brought
  | given =>
    rw [giveOutcome_handle]
    rfl
  | _ => exact idle

theorem Moves.idle {ep : Episode} {e' : Engine} (moves : Moves ep e e')
    (unbrought : ep.event? = none) (idle : e.handle.streamer = none) :
    e'.handle.streamer = none :=
  moves.keep (P := fun later => later.handle.streamer = none)
    (fun move idle => move.idle unbrought idle) idle

theorem Moves.threads {ep : Episode} {e' : Engine} (moves : Moves ep e e')
    (unbrought : ep.event? = none) : e'.threads ⊆ e.threads := by
  refine moves.keep (P := fun later => later.threads ⊆ e.threads) ?_ (List.Subset.refl _)
  intro a b move before
  obtain fewer | ⟨-, event, brought, -⟩ := move.threads
  · exact List.Subset.trans fewer before
  · rw [unbrought] at brought
    cases brought

theorem Reachable.held (reached : e.Reachable) : e.Held := by
  induction reached with
  | new made => exact .of_threads_eq_nil made.threads
  | attach source _ before => exact before
  | step depth outside operation _ before =>
    exact (step_moves depth outside operation _).keep (fun move held => move.held held) before

end SpeechClient.Engine
