import SpeechClient.Proofs.Session.Rounds

/-!
# Turns of the recognizer

When a streaming thread has its turn, the recognizer goes a round of it.  What happens in between
sends no audio, never starts the thread anew, and does not touch the reads of the application's
sources that are still to come.

- `Engine.round`, `Engine.advance`: the round that a thread goes, and what it does.
- `Engine.turn_eq`: a turn is a round, and its failure is handled.
- `Engine.Spares`: what is left of a thread and its source by something else.
-/

namespace SpeechClient

open Wire

def Observation.audio? : Observation → Option Frame
  | .sent frame => if frame.method? = some .sendAudio then some frame else none
  | _ => none

namespace Engine

variable {ep : Episode} {e e' : Engine} {link : Link} {notify : Notify} {s : Streamer}

def reading (link : Link) (notify : Notify) (s : Streamer) (e : Engine) : ReadOutcome × Engine :=
  let (r, e) := readSource s.source e
  (r.outcome, react link notify r.reaction e)

def round (link : Link) (notify : Notify) (s : Streamer) (e : Engine) : Round :=
  let (outcome, e) := reading link notify s e
  { outcome, stopped := !e.threads.contains s, refuses := link.sendFailure e.isOpen }

def advance (link : Link) (notify : Notify) (s : Streamer) (e : Engine) : Engine :=
  let round := e.round link notify s
  let read := (e.reading link notify s).2
  let sent := match round.frame? with
    | some frame => (send link frame read).2
    | none => read
  if round.ends then sent.endThread s else sent

theorem turn_of_stopped (stopped : s ∉ e.threads) : turn link notify s e = e := by
  unfold turn
  simp [stopped]

theorem endThread_of_stopped (stopped : s ∉ e.threads) : e.endThread s = e := by
  have same : e.threads.filter (· ≠ s) = e.threads := by
    refine List.filter_eq_self.mpr fun other running => ?_
    simpa using ne_of_mem_of_not_mem running stopped
  unfold endThread
  rw [same]

/-- In a round of the recognizer the failure of the round is handled, if it failed, and nothing
else is. -/
theorem turn_eq (running : s ∈ e.threads) : turn link notify s e =
    match (e.round link notify s).failure? with
    | some error => fail notify error (e.advance link notify s)
    | none => e.advance link notify s := by
  unfold turn advance round reading
  rw [if_neg (by simpa using running)]
  generalize readSource s.source e = result
  obtain ⟨r, read⟩ := result
  dsimp only
  generalize react link notify r.reaction read = reacted
  cases r.outcome with
  | error error => simp [Round.failure?, Round.ends, Round.frame?]
  | ok piece =>
    obtain ⟨status, bytes⟩ := piece
    by_cases going : s ∈ reacted.threads
    · have framed : (Round.mk (.ok (status, bytes)) (!reacted.threads.contains s)
          (link.sendFailure reacted.isOpen)).frame? = packet? status bytes := by
        cases status with
        | data => simp [Round.frame?, packet?, going]
        | endOfStream => simp [Round.frame?, packet?, going]
      have unended : packet? status bytes = none → status ≠ .endOfStream := by
        rintro silent rfl
        cases silent
      simp only [Round.failure?, Round.ends, framed]
      cases packed : packet? status bytes with
      | none => simp [going, Round.atEnd, unended packed]
      | some frame =>
        have failure := send_fst link frame reacted
        simp only [Option.bind_some, ← failure]
        generalize send link frame reacted = answer
        obtain ⟨failure, sent⟩ := answer
        cases failure with
        | some error => simp [going]
        | none => simp [going, Round.atEnd]
    · simp [Round.failure?, Round.ends, Round.frame?, going, endThread_of_stopped]

/-! ## What happens between two rounds -/

def audioSince (e start : Engine) : List Frame :=
  (e.seenSince start).filterMap Observation.audio?

/-- A thread that runs after something else has happened ran before it, and finds the reads that it
would have found. -/
def Spares (s : Streamer) (e e' : Engine) : Prop :=
  s ∈ e'.threads → s ∈ e.threads ∧
    ∀ source, e.sources[s.source]? = some (.own source) →
      e'.sources[s.source]? = some (.own source)

theorem Spares.refl (s : Streamer) (e : Engine) : Spares s e e :=
  fun running => ⟨running, fun _ => id⟩

theorem Spares.trans {e'' : Engine} (first : Spares s e e') (second : Spares s e' e'') :
    Spares s e e'' := by
  intro running
  obtain ⟨running', kept'⟩ := second running
  obtain ⟨running, kept⟩ := first running'
  exact ⟨running, fun source found => kept' source (kept source found)⟩

theorem Spares.of_stopped (stopped : s ∉ e'.threads) : Spares s e e' :=
  fun running => absurd running stopped

theorem Spares.of_eq (threads : e'.threads ⊆ e.threads) (sources : e'.sources = e.sources) :
    Spares s e e' :=
  fun running => ⟨threads running, fun _ found => sources ▸ found⟩

theorem startStreaming_nextThread (source : SourceId) (e : Engine) :
    (e.startStreaming source).nextThread = e.nextThread + 1 := by
  unfold startStreaming
  dsimp only
  split
  · rfl
  · rfl

theorem stopStreamer_nextThread (e : Engine) : e.stopStreamer.nextThread = e.nextThread := by
  unfold stopStreamer
  split
  · rfl
  · rfl

theorem tryStreaming_nextThread (link : Link) (source : SourceId) (e : Engine) :
    e.nextThread ≤ (e.tryStreaming link source).nextThread := by
  unfold tryStreaming
  split
  · exact (stopStreamer_nextThread e).ge
  · rw [startStreaming_nextThread]
    exact Nat.le_succ _

/-- A thread that runs after a start is new, and its number has been given. -/
theorem tryStreaming_threads (link : Link) (held : e.Held) (source : SourceId) :
    ∀ s ∈ (e.tryStreaming link source).threads,
      s = ⟨e.nextThread, source⟩ ∧ s.thread < (e.tryStreaming link source).nextThread := by
  unfold tryStreaming
  split
  · rw [stopStreamer_threads held]
    exact fun s running => absurd running List.not_mem_nil
  · intro s running
    have same := startStreaming_threads held source s running
    refine ⟨same, ?_⟩
    rw [same, startStreaming_nextThread]
    exact Nat.lt_succ_self _

theorem startStreams_nextThread (link : Link) (effects : List Effect) (e : Engine) :
    e.nextThread ≤ (startStreams link effects e).nextThread := by
  unfold startStreams
  induction effects generalizing e with
  | nil => exact Nat.le_refl _
  | cons effect rest after =>
    cases effect with
    | startStreaming source => exact (tryStreaming_nextThread link source e).trans (after _)
    | send frame => exact after e
    | notify n => exact after e
    | commit outcome => exact after e

theorem Move.nextThread (move : Move ep e e') : e.nextThread ≤ e'.nextThread := by
  cases move with
  | stopped => exact (stopStreamer_nextThread e).ge
  | forgotten =>
    unfold forget
    split
    · exact Nat.le_refl _
    · exact Nat.le_refl _
  | dispatched => exact startStreams_nextThread _ _ (ep.start.onHandle _)
  | given => exact (stopStreamer_nextThread ep.start).ge
  | _ => exact Nat.le_refl _

theorem transition_held (held : e.Held) (event : Inbound) :
    (e.onHandle fun h => (h.transition event e.settings.parameters).1).Held := by
  obtain ⟨_, _, fields, -⟩ := e.handle.transition_fields event e.settings.parameters
  have streamer : (e.handle.transition event e.settings.parameters).1.streamer =
      e.handle.streamer := by rw [fields]
  exact held.congr (fun _ => id) streamer

/-- Threads that are started later have other numbers. -/
theorem dispatch_spares {event : Inbound} (held : e.Held) (fresh : s.thread < e.nextThread) :
    Spares s e (e.dispatch link event) := by
  cases starts : event.starts with
  | false =>
    rw [dispatch_of_not_starts starts]
    exact .of_eq (List.Subset.refl _) rfl
  | true =>
    rw [dispatch_of_starts starts]
    cases e.handle.audioSource with
    | none => exact .of_eq (List.Subset.refl _) rfl
    | some source =>
      refine .of_stopped fun running => ?_
      have same := (tryStreaming_threads link (transition_held held event) source s running).1
      rw [same] at fresh
      exact Nat.lt_irrefl _ fresh

theorem Move.spares (move : Move ep e e') (unhandled : ¬HandlesAudio ep e) (held : e.Held)
    (fresh : s.thread < e.nextThread) : Spares s e e' := by
  have stopping (held : e.Held) : Spares s e e.stopStreamer := by
    refine .of_stopped ?_
    rw [stopStreamer_threads held]
    exact List.not_mem_nil
  cases move with
  | stopped => exact stopping held
  | forgotten idle =>
    refine .of_stopped ?_
    rw [forget_threads, held.threads_eq_nil idle]
    exact List.not_mem_nil
  | dispatched => exact dispatch_spares held fresh
  | given => exact stopping held
  | audioHandled sources handles => exact absurd handles unhandled
  | threadEnded => exact .of_eq (List.filter_subset_self _) rfl
  | _ => exact .of_eq (List.Subset.refl _) rfl

theorem Moves.spares (moves : Moves ep e e') (unhandled : ∀ e, ¬HandlesAudio ep e) (held : e.Held)
    (fresh : s.thread < e.nextThread) : Spares s e e' := by
  suffices kept : Spares s e e' ∧ e'.Held ∧ s.thread < e'.nextThread from kept.1
  refine moves.keep (P := fun later => Spares s e later ∧ later.Held ∧ s.thread < later.nextThread)
    ?_ ⟨.refl s e, held, fresh⟩
  rintro a b move ⟨spared, held, fresh⟩
  exact ⟨spared.trans (move.spares (unhandled a) held fresh), move.held held,
    fresh.trans_le move.nextThread⟩

theorem Moves.nextThread (moves : Moves ep e e') : e.nextThread ≤ e'.nextThread :=
  moves.keep (P := fun later => e.nextThread ≤ later.nextThread)
    (fun move before => Nat.le_trans before move.nextThread) (Nat.le_refl _)

theorem audioSince_append {start : Engine} {more : List Observation}
    (since : start.trace <+: e.trace) (seen : e'.trace = e.trace ++ more) :
    e'.audioSince start = e.audioSince start ++ more.filterMap Observation.audio? := by
  unfold audioSince
  rw [seenSince_append since seen, List.filterMap_append]

theorem audioSince_of_trace_eq (same : e'.trace = e.trace) : e'.audioSince e = [] := by
  simp [audioSince, seenSince, same]

theorem audioSince_trans {e'' : Engine} (first : e.trace <+: e'.trace)
    (second : e'.trace <+: e''.trace) :
    e''.audioSince e = e'.audioSince e ++ e''.audioSince e' := by
  unfold audioSince
  rw [seenSince_trans first second, List.filterMap_append]

/-- Only rounds of threads send audio. -/
theorem Moves.audioSince (moves : Moves ep e e')
    (unstreamed : ∀ thread, ep.operation ≠ .stream thread) : e'.audioSince e = [] := by
  refine moves.keepOn (P := fun later => later.audioSince e = []) ?_ (audioSince_of_trace_eq rfl)
  intro a b earlier move silent
  obtain ⟨o, observes, rfl⟩ | ⟨sources, seen⟩ := move.seen
  · rw [audioSince_append earlier.grows rfl, silent]
    cases observes with
    | @sent frame sends =>
      have other : frame.method? ≠ some .sendAudio := fun audio => by
        obtain ⟨thread, streamed, -⟩ := sends.audio_inv audio
        exact unstreamed thread streamed
      simp [Observation.audio?, other]
    | _ => rfl
  · rw [audioSince_append earlier.grows seen, silent]
    simp [List.filterMap_map, Function.comp_def, Observation.audio?]

/-! ## What a round does -/

/-- An operation in which nothing happens but what callbacks do. -/
def aside (e : Engine) : Episode :=
  ⟨.status, .reply .done, e⟩

theorem readSource_trace (source : SourceId) (e : Engine) :
    (readSource source e).2.trace = e.trace := by
  unfold readSource
  split
  · rfl
  · rfl

theorem readSource_nextThread (source : SourceId) (e : Engine) :
    (readSource source e).2.nextThread = e.nextThread := by
  unfold readSource
  split
  · rfl
  · rfl

/-- A source of the application gives its reads one by one, and nothing new after them. -/
theorem readSource_own {source : SourceId} {own : OwnSource}
    (found : e.sources[source]? = some (.own own)) (unclosed : own.closed = false) :
    (readSource source e).1.outcome = (own.reads[0]?.map (·.outcome)).getD (.ok (.data, [])) ∧
      (readSource source e).2.sources[source]? =
        some (.own { own with reads := own.reads.tail }) := by
  have within : source < e.sources.length := (List.getElem?_eq_some_iff.mp found).1
  obtain ⟨reads, closed⟩ := own
  obtain rfl : closed = false := unclosed
  simp only [readSource, found]
  cases reads with
  | nil => simp [AudioSource.read, within]
  | cons r rest => simp [AudioSource.read, within]

section Rounds

variable (telling : ∀ ep, Telling ep notify)
include telling

theorem reading_moves (link : Link) (s : Streamer) (e : Engine) :
    Moves (aside (readSource s.source e).2) (readSource s.source e).2
      (e.reading link notify s).2 :=
  react_moves link (telling _) List.prefix_rfl _

theorem reading_audioSince (link : Link) (s : Streamer) (e : Engine) :
    e.trace <+: (e.reading link notify s).2.trace ∧
      (e.reading link notify s).2.audioSince e = [] := by
  have moves := reading_moves telling link s e
  have grown := moves.grows
  have silent := moves.audioSince (by simp [aside])
  rw [audioSince, seenSince, readSource_trace] at silent
  rw [readSource_trace] at grown
  exact ⟨grown, silent⟩

theorem fail_audioSince (error : RecognitionError) (e : Engine) :
    e.trace <+: (fail notify error e).trace ∧ (fail notify error e).audioSince e = [] ∧
      (fail notify error e).threads ⊆ e.threads := by
  have moves : Moves (aside e) e (notify (.error error) e) :=
    (telling _).moves _ e List.prefix_rfl
  exact ⟨moves.grows, moves.audioSince (by simp [aside]), moves.threads rfl⟩

theorem advance_audioSince (link : Link) (s : Streamer) (e : Engine) :
    e.trace <+: (e.advance link notify s).trace ∧
      (e.advance link notify s).audioSince e = (e.round link notify s).sent?.toList := by
  obtain ⟨grown, silent⟩ := reading_audioSince telling link s e
  have refuses (frame : Frame) : (e.round link notify s).refuses frame =
      (send link frame (e.reading link notify s).2).1 := (send_fst link frame _).symm
  have ended (sent : Engine) :
      (if (e.round link notify s).ends then sent.endThread s else sent).trace = sent.trace := by
    split
    · rfl
    · rfl
  unfold advance audioSince seenSince
  dsimp only
  rw [ended]
  change _ ∧ Engine.audioSince _ e = _
  cases framed : (e.round link notify s).frame? with
  | none => simp [Round.sent?, framed, grown, silent]
  | some frame =>
    have audio := Round.frame?_method? framed
    have failure := (Round.failure?_of_frame framed).trans (refuses frame)
    simp only [Round.sent?, framed, failure]
    unfold send
    split
    · refine ⟨grown.trans (List.prefix_append _ _), ?_⟩
      rw [audioSince_append grown rfl, silent]
      simp [Observation.audio?]
    · refine ⟨grown.trans (List.prefix_append _ _), ?_⟩
      rw [audioSince_append grown rfl, silent]
      simp [Observation.audio?, audio]

omit telling in
/-- A thread goes on after its round, unless the round ends it. -/
theorem mem_advance_threads_iff : s ∈ (e.advance link notify s).threads ↔
    (e.round link notify s).ends = false := by
  have sending (frame : Frame) (e : Engine) : (send link frame e).2.threads = e.threads := by
    unfold send
    split
    · rfl
    · rfl
  have sent : (match (e.round link notify s).frame? with
      | some frame => (send link frame (e.reading link notify s).2).2
      | none => (e.reading link notify s).2).threads = (e.reading link notify s).2.threads := by
    split
    · exact sending _ _
    · rfl
  unfold advance
  dsimp only
  split
  next ends => simp [endThread, ends]
  next going =>
    have going := Bool.eq_false_iff.mpr going
    have unstopped : (!(e.reading link notify s).2.threads.contains s) = false :=
      (Round.going_iff.mp going).1
    rw [sent]
    simpa [going] using unstopped

theorem turn_audioSince (link : Link) (running : s ∈ e.threads) :
    (turn link notify s e).audioSince e = (e.round link notify s).sent?.toList := by
  obtain ⟨grown, sent⟩ := advance_audioSince telling link s e
  rw [turn_eq running]
  split
  next error _ =>
    obtain ⟨further, silent, -⟩ := fail_audioSince telling error (e.advance link notify s)
    rw [audioSince_trans grown further, sent, silent, List.append_nil]
  · exact sent

theorem mem_turn_threads_iff (link : Link) (running : s ∈ e.threads) :
    s ∈ (turn link notify s e).threads ↔ (e.round link notify s).ends = false := by
  rw [turn_eq running]
  split
  next error failed =>
    have ends : (e.round link notify s).ends = true := by simp [Round.ends, failed]
    obtain ⟨-, -, fewer⟩ := fail_audioSince telling error (e.advance link notify s)
    -- Whoever is told of the failure cannot start the thread again.
    have ended : s ∉ (e.advance link notify s).threads := by
      rw [mem_advance_threads_iff, ends]
      simp
    simp only [ends, Bool.true_eq_false, iff_false]
    exact fun running => ended (fewer running)
  · exact mem_advance_threads_iff

/-- A round takes one read from a source of the application. -/
theorem turn_own (link : Link) {own : OwnSource} (held : e.Held) (fresh : s.thread < e.nextThread)
    (running : s ∈ e.threads) (found : e.sources[s.source]? = some (.own own))
    (unclosed : own.closed = false) :
    (e.round link notify s).outcome = (own.reads[0]?.map (·.outcome)).getD (.ok (.data, [])) ∧
      (s ∈ (turn link notify s e).threads → (turn link notify s e).sources[s.source]? =
        some (.own { own with reads := own.reads.tail })) := by
  obtain ⟨outcome, taken⟩ := readSource_own found unclosed
  refine ⟨outcome, fun going => ?_⟩
  have going := (mem_turn_threads_iff telling link running).mp going
  obtain ⟨unstopped, fine, -⟩ := Round.going_iff.mp going
  -- The thread still runs after its read, so nobody has touched its source meanwhile.
  have reading : s ∈ (e.reading link notify s).2.threads := by
    have unstopped : (!(e.reading link notify s).2.threads.contains s) = false := unstopped
    simpa using unstopped
  have held : (readSource s.source e).2.Held :=
    held.congr (fun _ => readSource_threads e s.source ▸ id)
      (congrArg (·.handle.streamer) (readSource_face e s.source))
  have spared := (reading_moves telling link s e).spares (fun _ => id) held
    (readSource_nextThread s.source e ▸ fresh)
  have kept := (spared reading).2 _ taken
  rw [turn_eq running, fine]
  unfold advance
  dsimp only
  rw [if_neg (by simp [going])]
  split
  · unfold send
    split
    · exact kept
    · exact kept
  · exact kept

end Rounds

/-! ## What other operations leave alone -/

/-- The numbers of threads that run have been given. -/
def Numbered (e : Engine) : Prop :=
  ∀ s ∈ e.threads, s.thread < e.nextThread

theorem dispatch_numbered {event : Inbound} (held : e.Held) (numbered : e.Numbered) :
    (e.dispatch link event).Numbered := by
  cases starts : event.starts with
  | false =>
    rw [dispatch_of_not_starts starts]
    exact numbered
  | true =>
    rw [dispatch_of_starts starts]
    cases e.handle.audioSource with
    | none => exact numbered
    | some source =>
      have held := transition_held held event
      intro s running
      exact (tryStreaming_threads link held source s running).2

theorem Move.numbered (move : Move ep e e') (held : e.Held) (numbered : e.Numbered) :
    e'.Numbered := by
  have stopping (held : e.Held) : e.stopStreamer.Numbered := by
    unfold Numbered
    rw [stopStreamer_threads held]
    exact fun s running => absurd running List.not_mem_nil
  cases move with
  | stopped => exact stopping held
  | forgotten idle =>
    unfold Numbered
    rw [forget_threads, held.threads_eq_nil idle]
    exact fun s running => absurd running List.not_mem_nil
  | dispatched => exact dispatch_numbered held numbered
  | given => exact stopping held
  | threadEnded => exact fun s running => numbered s (List.mem_of_mem_filter running)
  | _ => exact numbered

theorem Reachable.numbered (reached : e.Reachable) : e.Numbered := by
  induction reached with
  | new made =>
    unfold Numbered
    rw [made.threads]
    exact fun s running => absurd running List.not_mem_nil
  | attach source _ before => exact before
  | @step e depth outside operation reached before =>
    exact ((step_moves depth outside operation e).keep
      (P := fun later => later.Held ∧ later.Numbered)
      (fun move kept => ⟨move.held kept.1, move.numbered kept.1 kept.2⟩)
      ⟨reached.held, before⟩).2

/-- Whatever is done to a source from outside, the reads to come of a source of the application
stay. -/
theorem write_spares (source : SourceId) (bytes : Bytes) (e : Engine) :
    Spares s e (write source bytes e).2 := by
  unfold write
  split
  next given found =>
    refine fun running => ⟨running, fun own kept => ?_⟩
    by_cases same : source = s.source
    · subst same
      have within : s.source < e.sources.length := (List.getElem?_eq_some_iff.mp kept).1
      obtain rfl : given = .own own := Option.some.inj (found.symm.trans kept)
      simp [AudioSource.write, within]
    · simpa [same] using kept
  · exact .refl s e

theorem finish_spares (source : SourceId) (e : Engine) : Spares s e (finish source e) := by
  refine fun running => ⟨running, fun own kept => ?_⟩
  unfold finish
  dsimp only
  rw [List.getElem?_modify, kept]
  split
  · rfl
  · rfl

theorem step_held (depth : Nat) (outside : Outside) (operation : Operation) (held : e.Held) :
    (step depth outside operation e).2.Held :=
  (step_moves depth outside operation e).keep (fun move held => move.held held) held

theorem step_nextThread (depth : Nat) (outside : Outside) (operation : Operation) (e : Engine) :
    e.nextThread ≤ (step depth outside operation e).2.nextThread :=
  (step_moves depth outside operation e).nextThread

/-- An operation leaves alone what a thread runs on, unless it is a round of the thread. -/
theorem step_spares (depth : Nat) (outside : Outside) {operation : Operation}
    (other : operation ≠ .stream s) (held : e.Held) (fresh : s.thread < e.nextThread) :
    Spares s e (step depth outside operation e).2 := by
  have moves := step_moves depth outside operation e
  cases operation with
  | write source bytes => exact write_spares source bytes e
  | finish source => exact finish_spares source e
  | stream thread =>
    by_cases running : thread ∈ e.threads
    · -- Only one thread runs, and it is not this one.
      refine .of_stopped fun going => other ?_
      have running' := held s (moves.threads rfl going)
      rw [Option.some.inj ((held thread running).symm.trans running')]
    · have same : (step depth outside (.stream thread) e).2 = e := turn_of_stopped running
      exact same.symm ▸ .refl s e
  | _ => exact moves.spares (fun _ => id) held fresh

end Engine

end SpeechClient
