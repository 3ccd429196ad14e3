import SpeechClient.Proofs.Session.Turns

/-!
# Delivery of the audio

What a streaming thread sends in a run, from where it runs to its end: the audio of its source in
order, each piece in a frame of its own, and one mark of the end.

- `Engine.rounds`, `Engine.audioSent`: the rounds of a thread in a run, and the audio it sends.
- `Engine.audio_of_streaming`: what is sent, what is not, and how often a failure is handled.
-/

namespace SpeechClient

open Wire

namespace Engine

variable {e e' : Engine} {s : Streamer}

def rounds (depth : Nat) (s : Streamer) : List (Outside × Operation) → Engine → List Round
  | [], _ => []
  | (outside, operation) :: rest, e =>
    let later := rounds depth s rest (step depth outside operation e).2
    if operation = .stream s ∧ s ∈ e.threads then
      e.round outside.toLink (notifyAll outside depth) s :: later
    else later

def audioSent (depth : Nat) (s : Streamer) : List (Outside × Operation) → Engine → List Frame
  | [], _ => []
  | (outside, operation) :: rest, e =>
    let later := (step depth outside operation e).2
    (if operation = .stream s then later.audioSince e else []) ++ audioSent depth s rest later

variable {depth : Nat} {operations : List (Outside × Operation)}

theorem audioSent_eq : e.audioSent depth s operations =
    (e.rounds depth s operations).filterMap Round.sent? := by
  induction operations generalizing e with
  | nil => rfl
  | cons next rest after =>
    obtain ⟨outside, operation⟩ := next
    simp only [audioSent, rounds, after]
    by_cases streamed : operation = .stream s
    · subst streamed
      by_cases running : s ∈ e.threads
      · have sent := turn_audioSince (fun _ => notifyAll_telling outside depth)
          outside.toLink running
        cases said : (e.round outside.toLink (notifyAll outside depth) s).sent? with
        | none => simp [step, running, sent, said]
        | some frame => simp [step, running, sent, said]
      · simp [step, running, turn_of_stopped running, audioSince_of_trace_eq]
    · simp [streamed]

/-- A thread that was stopped goes no more rounds. -/
theorem rounds_of_stopped (held : e.Held) (fresh : s.thread < e.nextThread)
    (stopped : s ∉ e.threads) : e.rounds depth s operations = [] := by
  induction operations generalizing e with
  | nil => rfl
  | cons next rest after =>
    obtain ⟨outside, operation⟩ := next
    rw [rounds, if_neg (fun both => stopped both.2)]
    refine after (step_held depth outside operation held)
      (fresh.trans_le (step_nextThread depth outside operation e)) ?_
    by_cases streamed : operation = .stream s
    · subst streamed
      have same : (step depth outside (.stream s) e).2 = e := turn_of_stopped stopped
      exact same.symm ▸ stopped
    -- Another thread could be started, but with a number of its own.
    · exact fun running => stopped (step_spares depth outside streamed held fresh running).1

theorem rounds_paced (held : e.Held) (fresh : s.thread < e.nextThread) :
    Round.Paced (e.rounds depth s operations) := by
  induction operations generalizing e with
  | nil => exact .none
  | cons next rest after =>
    obtain ⟨outside, operation⟩ := next
    have held' := step_held depth outside operation held
    have fresh' := fresh.trans_le (step_nextThread depth outside operation e)
    have later := after held' fresh'
    unfold rounds
    split
    next both =>
      obtain ⟨rfl, running⟩ := both
      cases ends : (e.round outside.toLink (notifyAll outside depth) s).ends with
      | false => exact .cons ends later
      | true =>
        -- Rounds that come later would be those of a thread that has ended.
        have ended : s ∉ (step depth outside (.stream s) e).2.threads := by
          have going := mem_turn_threads_iff (fun _ => notifyAll_telling outside depth)
            outside.toLink running
          exact fun running => by simp [going.mp running] at ends
        dsimp only
        rw [rounds_of_stopped held' fresh' ended]
        exact .last _
    · exact later

/-- The reads of a thread are those of its source, one after another. -/
theorem rounds_outcome (held : e.Held) (fresh : s.thread < e.nextThread) {own : OwnSource}
    (found : e.sources[s.source]? = some (.own own)) (unclosed : own.closed = false)
    {i : Nat} {r : Round} (gone : (e.rounds depth s operations)[i]? = some r) :
    r.outcome = (own.reads[i]?.map (·.outcome)).getD (.ok (.data, [])) := by
  induction operations generalizing e own i with
  | nil => simp [rounds] at gone
  | cons next rest after =>
    obtain ⟨outside, operation⟩ := next
    have held' := step_held depth outside operation held
    have fresh' := fresh.trans_le (step_nextThread depth outside operation e)
    have running {j : Nat}
        (gone : ((step depth outside operation e).2.rounds depth s rest)[j]? = some r) :
        s ∈ (step depth outside operation e).2.threads := by
      by_contra stopped
      rw [rounds_of_stopped held' fresh' stopped] at gone
      cases gone
    unfold rounds at gone
    split at gone
    next both =>
      obtain ⟨rfl, alive⟩ := both
      obtain ⟨outcome, taken⟩ := turn_own (fun _ => notifyAll_telling outside depth)
        outside.toLink held fresh alive found unclosed
      cases i with
      | zero =>
        obtain rfl := Option.some.inj gone
        exact outcome
      | succ i =>
        have later := after held' fresh' (taken (running gone)) unclosed gone
        simpa using later
    next neither =>
      by_cases streamed : operation = .stream s
      · have stopped : s ∉ e.threads := fun alive => neither ⟨streamed, alive⟩
        subst streamed
        have same : (step depth outside (.stream s) e).2 = e := turn_of_stopped stopped
        rw [same] at running
        exact absurd (running (same ▸ gone)) stopped
      · have kept := (step_spares depth outside streamed held fresh (running gone)).2 own found
        exact after held' fresh' kept unclosed gone

/-- While a thread runs, whatever else happens sends no audio. -/
theorem step_audioSince {outside : Outside} {operation : Operation} (held : e.Held)
    (running : s ∈ e.threads) (other : operation ≠ .stream s) :
    (step depth outside operation e).2.audioSince e = [] := by
  by_cases streamed : ∃ thread, operation = .stream thread
  · obtain ⟨thread, rfl⟩ := streamed
    have stopped : thread ∉ e.threads := fun alive => by
      have same := Option.some.inj ((held thread alive).symm.trans (held s running))
      exact other (same ▸ rfl)
    have same : (step depth outside (.stream thread) e).2 = e := turn_of_stopped stopped
    exact audioSince_of_trace_eq (congrArg trace same)
  · exact (step_moves depth outside operation e).audioSince fun thread same =>
      streamed ⟨thread, same⟩

theorem Reachable.run (reached : e.Reachable) : (e.run depth operations).2.Reachable := by
  induction operations generalizing e with
  | nil => exact reached
  | cons next rest after => exact after (.step depth next.1 next.2 reached)

theorem run_nextThread : e.nextThread ≤ (e.run depth operations).2.nextThread := by
  induction operations generalizing e with
  | nil => exact Nat.le_refl _
  | cons next rest after => exact (step_nextThread depth next.1 next.2 e).trans after

/-- From where a thread runs on, it sends exactly the audio that it reads, in one frame for each
read with audio and one for the end of the stream, and it goes on after a read unless that was the
end, it failed, its frame was not taken, or the thread was stopped meanwhile.  So what is sent is
what the thread read, up to the last read at most, and all of it once the mark of the end is sent;
that mark is on the last frame only, and no other frame is empty.  A failure is handled in the round
that failed, which is the last one, and nothing else is. -/
theorem audio_of_streaming {first : Engine} (reached : first.Reachable) {s : Streamer}
    (running : s ∈ first.threads) (depth : Nat) (operations : List (Outside × Operation)) :
    let rounds := first.rounds depth s operations
    let frames := first.audioSent depth s operations
    let e := (first.run depth operations).2
    frames = rounds.filterMap Round.sent? ∧
    (∀ r ∈ rounds.dropLast, r.ends = false) ∧
    (s ∉ e.threads → ∀ more, e.rounds depth s more = [] ∧ e.audioSent depth s more = []) ∧
    (frames.map (·.body)).flatten <+: (rounds.map Round.chunk).flatten ∧
    ((∃ frame ∈ frames, frame.header? Key.lastPacket = some (utf8 "true")) →
      (frames.map (·.body)).flatten = (rounds.map Round.chunk).flatten) ∧
    (∀ frame ∈ frames.dropLast, frame.header? Key.lastPacket = some (utf8 "false")) ∧
    (∀ frame ∈ frames, frame.header? Key.lastPacket = some (utf8 "false") → frame.body ≠ []) ∧
    (rounds.filterMap Round.failure?).length ≤ 1 ∧
    (∀ own : OwnSource, first.sources[s.source]? = some (.own own) → own.closed = false →
      ∀ (i : Nat) (r : Round), rounds[i]? = some r →
        r.outcome = (own.reads[i]?.map (·.outcome)).getD (.ok (.data, []))) ∧
    (s ∈ e.threads → ∀ outside,
      let notify := notifyAll outside depth
      let r := e.round outside.toLink notify s
      let later := (e.step depth outside (.stream s)).2
      later = (match r.failure? with
        | some error => fail notify error (e.advance outside.toLink notify s)
        | none => e.advance outside.toLink notify s) ∧
      (s ∈ later.threads ↔ r.ends = false) ∧
      ∀ operation, operation ≠ .stream s →
        (e.step depth outside operation).2.audioSince e = []) := by
  intro rounds frames e
  have held := reached.held
  have fresh := reached.numbered s running
  have paced : Round.Paced rounds := rounds_paced held fresh
  have sent : frames = rounds.filterMap Round.sent? := audioSent_eq
  have later : e.Reachable := reached.run
  have moved : s.thread < e.nextThread := fresh.trans_le run_nextThread
  obtain ⟨partly, whole⟩ := paced.bodies
  refine ⟨sent, paced.going, ?_, ?_, ?_, ?_, ?_, paced.failures, ?_, ?_⟩
  · intro stopped more
    have none : e.rounds depth s more = [] := rounds_of_stopped later.held moved stopped
    exact ⟨none, by rw [audioSent_eq, none]; rfl⟩
  · rw [sent]
    exact partly
  · rw [sent]
    exact whole
  · rw [sent]
    exact paced.marks
  · rw [sent]
    exact fun frame => Round.audio_of_unmarked
  · intro own found unclosed i r gone
    exact rounds_outcome held fresh found unclosed gone
  · intro alive outside notify r after
    have telling : ∀ ep, Telling ep notify := fun _ => notifyAll_telling outside depth
    exact ⟨turn_eq alive, mem_turn_threads_iff telling outside.toLink alive,
      fun operation other => step_audioSince later.held alive other⟩

/-- A thread sends two pieces of audio and the end; in between it finds nothing new. -/
theorem audio_of_streaming_to_end :
    let outside : Outside := { Link.reliable with }
    let piece (status : ReadStatus) (bytes : Bytes) : OwnRead := { outcome := .ok (status, bytes) }
    let started := Operation.message
      (utf8 "ASR 2.4 RESPONSE\r\nMethod: START_RECOGNITION\r\nResult: SUCCESS\r\n\r\n")
    let known := (sample.attach (.own
      { reads := [piece .data [1, 2], piece .data [], piece .data [3], piece .endOfStream []] })).2
    let begun := (known.step 0 outside (.recognize 0 (.ofUri "builtin:slm"))).2
    let streaming := (begun.step 0 outside started).2
    let operations := List.replicate 5 (outside, Operation.stream ⟨0, 0⟩)
    ⟨0, 0⟩ ∈ streaming.threads ∧
      (streaming.rounds 0 ⟨0, 0⟩ operations).filterMap Round.sent? =
        [Request.sendAudio [1, 2] false, Request.sendAudio [3] false, Request.sendAudio [] true] ∧
      streaming.audioSent 0 ⟨0, 0⟩ operations =
        (streaming.rounds 0 ⟨0, 0⟩ operations).filterMap Round.sent? := by
  intro outside piece started known begun streaming operations
  have reached : streaming.Reachable :=
    .step 0 outside started (.step 0 outside _ (.attach _ (.new sample_new)))
  have running : ⟨0, 0⟩ ∈ streaming.threads := by decide +kernel
  exact ⟨running, by decide +kernel, (audio_of_streaming reached running 0 operations).1⟩

end Engine

end SpeechClient
