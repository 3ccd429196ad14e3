import SpeechClient.Proofs.Audio.Commands
import SpeechClient.Proofs.Session.Delivery

/-!
# What happens to a source

A recognizer does nothing to a source but what can be asked of a source: it reads it and closes it,
and lets the application write to it and finish it.  So a source from which nothing can be read any
more gives nothing to any later recognition; what a close leaves to be read, the next one sends.

- `Engine.Treats`: one state has the source of another with commands carried out on it.
- `Engine.step_treats`: so has every operation.
- `Engine.audio_after_close`: what is read and sent from a source after a close.
-/

namespace SpeechClient

open Wire

namespace Engine

variable {ep : Episode} {e e' : Engine} {link : Link} {notify : Notify} {i : SourceId}

/-- The source is the one that it was, after some commands. -/
def Treats (i : SourceId) (e e' : Engine) : Prop :=
  ∃ commands, e'.sources[i]? = e.sources[i]?.map (·.after commands)

theorem Treats.refl (i : SourceId) (e : Engine) : Treats i e e :=
  ⟨[], by simp [AudioSource.after]⟩

theorem Treats.trans {e'' : Engine} (first : Treats i e e') (second : Treats i e' e'') :
    Treats i e e'' := by
  obtain ⟨commands, here⟩ := first
  obtain ⟨more, there⟩ := second
  refine ⟨commands ++ more, ?_⟩
  rw [there, here, Option.map_map]
  simp [AudioSource.after, Function.comp_def]

theorem Treats.of_eq (same : e'.sources = e.sources) : Treats i e e' := by
  obtain ⟨commands, kept⟩ := Treats.refl i e
  exact ⟨commands, same ▸ kept⟩

/-- A command is carried out on some source. -/
theorem Treats.of_modify (source : SourceId) (command : AudioSource.Command)
    (changed : e'.sources = e.sources.modify source (·.perform command)) : Treats i e e' := by
  by_cases same : source = i
  · exact ⟨[command], by simp [changed, same, AudioSource.after]⟩
  · exact ⟨[], by simp [changed, same, AudioSource.after]⟩

/-- A source is put in the place of what it was before a command. -/
theorem Treats.of_set {source : SourceId} {s : AudioSource}
    (found : e.sources[source]? = some s) (command : AudioSource.Command)
    (changed : e'.sources = e.sources.set source (s.perform command)) : Treats i e e' := by
  refine .of_modify source command ?_
  rw [changed, List.modify_eq_set_getElem?, found]
  rfl

theorem closeSource_treats (source : SourceId) (e : Engine) : Treats i e (e.closeSource source) :=
  .of_modify source .close rfl

theorem stopStreamer_treats (e : Engine) : Treats i e e.stopStreamer := by
  unfold stopStreamer
  split
  next s _ => exact closeSource_treats s.source _
  · exact .refl i e

theorem startStreaming_treats (source : SourceId) (e : Engine) :
    Treats i e (e.startStreaming source) := by
  unfold startStreaming
  dsimp only
  split
  next old _ => exact closeSource_treats old.source _
  · exact .of_eq rfl

theorem tryStreaming_treats (link : Link) (source : SourceId) (e : Engine) :
    Treats i e (e.tryStreaming link source) := by
  unfold tryStreaming
  split
  · exact stopStreamer_treats e
  · exact startStreaming_treats source e

theorem startStreams_treats (link : Link) (effects : List Effect) (e : Engine) :
    Treats i e (startStreams link effects e) := by
  unfold startStreams
  induction effects generalizing e with
  | nil => exact .refl i e
  | cons effect rest after =>
    cases effect with
    | startStreaming source => exact (tryStreaming_treats link source e).trans (after _)
    | _ => exact after e

theorem forget_treats (e : Engine) : Treats i e e.forget := by
  unfold forget
  split
  next source _ => exact closeSource_treats source _
  · exact .of_eq rfl

theorem Move.treats (move : Move ep e e') (unhandled : ¬HandlesAudio ep e) : Treats i e e' := by
  cases move with
  | stopped => exact stopStreamer_treats e
  | forgotten => exact forget_treats e
  | dispatched => exact startStreams_treats _ _ (ep.start.onHandle _)
  | given => exact stopStreamer_treats ep.start
  | audioHandled sources handles => exact absurd handles unhandled
  | _ => exact .of_eq rfl

theorem Moves.treats (moves : Moves ep e e') (unhandled : ∀ e, ¬HandlesAudio ep e) :
    Treats i e e' :=
  moves.keep (P := Treats i e) (fun move before => before.trans (move.treats (unhandled _)))
    (.refl i e)

theorem readSource_treats (source : SourceId) (e : Engine) : Treats i e (readSource source e).2 := by
  unfold readSource
  split
  next s found => exact .of_set found .read rfl
  · exact .refl i e

theorem write_treats (source : SourceId) (bytes : Bytes) (e : Engine) :
    Treats i e (write source bytes e).2 := by
  unfold write
  split
  next s found => exact .of_set found (.write bytes) rfl
  · exact .refl i e

theorem send_sources (link : Link) (frame : Frame) (e : Engine) :
    (send link frame e).2.sources = e.sources := by
  unfold send
  split
  · rfl
  · rfl

theorem advance_sources (link : Link) (notify : Notify) (s : Streamer) (e : Engine) :
    (e.advance link notify s).sources = (e.reading link notify s).2.sources := by
  have ended (sent : Engine) (ends : Bool) :
      (if ends then sent.endThread s else sent).sources = sent.sources := by
    split
    · rfl
    · rfl
  unfold advance
  dsimp only
  rw [ended]
  split
  · exact send_sources link _ _
  · rfl

theorem turn_treats (telling : ∀ ep, Telling ep notify) (link : Link) (s : Streamer) (e : Engine) :
    Treats i e (turn link notify s e) := by
  by_cases running : s ∈ e.threads
  · have read : Treats i e (e.reading link notify s).2 :=
      (readSource_treats s.source e).trans
        ((reading_moves telling link s e).treats (fun _ => id))
    have advanced : Treats i e (e.advance link notify s) :=
      read.trans (.of_eq (advance_sources link notify s e))
    rw [turn_eq running]
    split
    next error _ =>
      have told : Moves (aside (e.advance link notify s)) (e.advance link notify s)
          (notify (.error error) (e.advance link notify s)) :=
        (telling _).moves _ _ List.prefix_rfl
      exact advanced.trans ((told.treats (fun _ => id)).trans (.of_eq rfl))
    · exact advanced
  · rw [turn_of_stopped running]
    exact .refl i e

theorem step_treats (depth : Nat) (outside : Outside) (operation : Operation) (e : Engine) :
    Treats i e (step depth outside operation e).2 := by
  have moves := step_moves depth outside operation e
  cases operation with
  | write source bytes => exact write_treats source bytes e
  | finish source => exact .of_modify source .finish rfl
  | stream thread =>
    exact turn_treats (fun _ => notifyAll_telling outside depth) outside.toLink thread e
  | _ => exact moves.treats (fun _ => id)

/-! ## After a close -/

section Streaming

variable {s : Streamer} {source : AudioSource} (found : e.sources[s.source]? = some source)
include found

theorem round_outcome : (e.round link notify s).outcome = source.read.1.outcome := by
  simp [round, reading, readSource, found]

/-- Nobody does anything while live audio is read. -/
theorem round_buffer {live : BufferSource} (kind : source = .buffer live) (running : s ∈ e.threads)
    (link : Link) (notify : Notify) : e.round link notify s =
      { outcome := .ok (if live.finished then .endOfStream else .data, live.ring.queue)
        stopped := false
        refuses := link.sendFailure e.isOpen } := by
  subst kind
  simp [round, reading, readSource, found, AudioSource.read_buffer, react, running]

/-- A thread never reads any audio from a source that is exhausted when the run begins. -/
theorem rounds_of_exhausted (exhausted : source.Exhausted) (depth : Nat)
    (operations : List (Outside × Operation)) :
    ∀ r ∈ e.rounds depth s operations, r.outcome = .ok (.endOfStream, []) := by
  induction operations generalizing e source with
  | nil => exact List.forall_mem_nil _
  | cons next rest later =>
    obtain ⟨outside, operation⟩ := next
    obtain ⟨commands, changed⟩ := step_treats (i := s.source) depth outside operation e
    rw [found, Option.map_some] at changed
    have later := later changed (exhausted.after commands)
    unfold rounds
    split
    · refine List.forall_mem_cons.2 ⟨?_, later⟩
      rw [round_outcome found, exhausted.read.1]
    · exact later

/-- From a source that is exhausted when the run begins a thread sends nothing but the mark of the
end. -/
theorem audioSent_of_exhausted (exhausted : source.Exhausted) (depth : Nat)
    (operations : List (Outside × Operation)) :
    ∀ frame ∈ e.audioSent depth s operations, frame = Request.sendAudio [] true := by
  intro frame member
  rw [audioSent_eq] at member
  obtain ⟨r, gone, sent⟩ := List.mem_filterMap.1 member
  have read := rounds_of_exhausted found exhausted depth operations r gone
  obtain ⟨rfl, -⟩ := Round.sent?_eq_some sent
  simp [Round.chunk, Round.atEnd, read]

/-- What waits in live audio is sent in the next round. -/
theorem turn_buffer_audioSince {live : BufferSource} (kind : source = .buffer live)
    (telling : ∀ ep, Telling ep notify) (running : s ∈ e.threads) (waits : live.ring.queue ≠ [])
    (taken : link.refuseSend e.isOpen (Request.sendAudio live.ring.queue live.finished) = none) :
    (turn link notify s e).audioSince e =
      [Request.sendAudio live.ring.queue live.finished] := by
  have round := round_buffer found kind running link notify
  have accepted : link.sendFailure e.isOpen
      (Request.sendAudio live.ring.queue live.finished) = none := by
    simp [Link.sendFailure, taken]
  rw [turn_audioSince telling link running, round]
  cases finished : live.finished with
  | false =>
    rw [finished] at accepted
    simp [Round.sent?, Round.failure?, Round.frame?, waits, accepted]
  | true =>
    rw [finished] at accepted
    simp [Round.sent?, Round.failure?, Round.frame?, accepted]

end Streaming

/-- After a close every read reports the end of the stream without audio, and no thread sends more
from the source than that mark, whatever was done to the source before and is done to it later; only
live audio has to be finished and read to its end for that.  It does not notice that it is closed:
it goes on as if it had not been, and what still waits in it is sent in the next round. -/
theorem audio_after_close (s : AudioSource) (before : List AudioSource.Command) :
    let reached := s.after before
    let closed := s.after (before ++ [.close])
    let spent := ∀ live, reached = .buffer live → live.finished = true ∧ live.ring.queue = []
    ((∀ later, ∀ outcome ∈ closed.outcomes later, outcome = .ok (.endOfStream, [])) ↔ spent) ∧
    (spent → ∀ (e : Engine) (thread : Streamer), e.sources[thread.source]? = some closed →
      ∀ depth operations, ∀ frame ∈ e.audioSent depth thread operations,
        frame = Request.sendAudio [] true) ∧
    ∀ live, reached = .buffer live →
      (∀ later, closed.outcomes later = reached.outcomes (later.filter (· ≠ .close))) ∧
      ∀ (e : Engine) (thread : Streamer), e.sources[thread.source]? = some closed →
        thread ∈ e.threads → live.ring.queue ≠ [] → ∀ depth (outside : Outside),
          let frame := Request.sendAudio live.ring.queue live.finished
          outside.refuseSend e.isOpen frame = none →
          (e.step depth outside (.stream thread)).2.audioSince e = [frame] := by
  intro reached closed spent
  have closes : closed = reached.close := by simp [closed, reached, AudioSource.after,
    AudioSource.perform]
  clear_value closed reached
  subst closes
  refine ⟨⟨fun ended => ?_, fun left => ?_⟩, fun left e thread found depth operations => ?_, ?_⟩
  · exact AudioSource.exhausted_close_iff.1 (AudioSource.exhausted_of_outcomes (ended [.read]))
  · exact (AudioSource.exhausted_close_iff.2 left).outcomes
  · exact audioSent_of_exhausted found (AudioSource.exhausted_close_iff.2 left) depth operations
  · rintro live rfl
    refine ⟨AudioSource.outcomes_of_buffer live, ?_⟩
    intro e thread found running waits depth outside frame taken
    exact turn_buffer_audioSince found rfl (fun _ => notifyAll_telling outside depth) running waits
      taken

/-- Of a file that is closed a recognition sends nothing but that there is no more. -/
theorem audio_after_close_of_file :
    let outside : Outside := { Link.reliable with }
    let started := Operation.message
      (utf8 "ASR 2.4 RESPONSE\r\nMethod: START_RECOGNITION\r\nResult: SUCCESS\r\n\r\n")
    let file := AudioSource.file
      { path := utf8 "audio", format := {}, content := some (.rest (utf8 "abc")) }
    let closed := (sample.attach file).2.closeSource 0
    closed.sources[0]? = some (file.after [.close]) ∧
      closed.audioSent 0 ⟨0, 0⟩ [(outside, .recognize 0 (.ofUri "builtin:slm")),
        (outside, started), (outside, .stream ⟨0, 0⟩)] = [Request.sendAudio [] true] ∧
      ∀ depth operations, ∀ frame ∈ closed.audioSent depth ⟨0, 0⟩ operations,
        frame = Request.sendAudio [] true := by
  intro outside started file closed
  exact ⟨rfl, by decide +kernel,
    (audio_after_close file []).2.1 (fun _ => nofun) closed ⟨0, 0⟩ rfl⟩

/-- Two octets wait in live audio when the recognition is closed, and with it the source; the next
recognition sends them. -/
theorem sent_after_close :
    let outside : Outside := { Link.reliable with }
    let started := Operation.message
      (utf8 "ASR 2.4 RESPONSE\r\nMethod: START_RECOGNITION\r\nResult: SUCCESS\r\n\r\n")
    let live := AudioSource.buffer (.ofCapacity 16)
    let recognize := Operation.recognize 0 (.ofUri "builtin:slm")
    let closed := ((sample.attach live).2.run 0
      [(outside, recognize), (outside, started), (outside, .write 0 (utf8 "ab")),
        (outside, .close)]).2
    let again := (closed.run 0 [(outside, recognize), (outside, started)]).2
    live.outcomes [.write (utf8 "ab"), .close, .read] = [.ok (.data, utf8 "ab")] ∧
      .audioClosed 0 ∈ closed.trace ∧ closed.threads = [] ∧
      again.audioSent 0 ⟨1, 0⟩ [(outside, .stream ⟨1, 0⟩)] =
        [Request.sendAudio (utf8 "ab") false] := by
  decide +kernel

end Engine

end SpeechClient
