import SpeechClient.Proofs.Session.Silence

/-!
# One stream at a time

The audio of a recognition is streamed from the moment the server says that the recognition has
started.  As long as the server says so once for each recognition, and each recognition has a source
of its own, a thread only starts where none runs, and no thread has to do with a source that was
closed.

- `Chronicle.Awaiting`: a recognition was accepted, and the server has not said that it started.
- `Chronicle.Orderly`: what is asked of sources and of the server.
- `Engine.streams_of_orderly`: what follows for threads and audio.
-/

namespace SpeechClient

open Wire

namespace Entry

def given? : Entry → Option SourceId
  | began (.recognize source _) => some source
  | _ => none

def closed? : Entry → Option SourceId
  | seen _ (.audioClosed source) => some source
  | _ => none

/-- The server says that the recognition has started. -/
def starts (protocol : ServerProtocol) : Entry → Bool
  | began operation => (operation.brings? protocol).any Inbound.starts
  | _ => false

/-- A recognition is not awaited any more: it has started, its outcome was taken, or no connection
took the request for another. -/
def settles (protocol : ServerProtocol) : Entry → Bool
  | taken => true
  | ended (.recognize _ _) (.reply (.failed error)) => error.external
  | entry => entry.starts protocol

end Entry

namespace Chronicle

def given (log : Chronicle) : List SourceId :=
  log.filterMap Entry.given?

def closed (log : Chronicle) : List SourceId :=
  log.filterMap Entry.closed?

/-- A recognition was accepted, and the server has not said that it started. -/
def Awaiting (protocol : ServerProtocol) (log : Chronicle) : Prop :=
  log.Since Entry.accepts (Entry.settles protocol)

/-- Each recognition has a source of its own, and the server says of a recognition only once that it
has started. -/
structure Orderly (protocol : ServerProtocol) (log : Chronicle) : Prop where
  sources : log.given.Nodup
  starts : log.Always fun before entry => entry.starts protocol = true → before.Awaiting protocol

variable {protocol : ServerProtocol} {log more : Chronicle}

instance : Decidable (log.Awaiting protocol) :=
  inferInstanceAs (Decidable (log.Since Entry.accepts (Entry.settles protocol)))

instance : Decidable (log.Orderly protocol) :=
  decidable_of_iff (log.given.Nodup ∧ log.Always fun before entry =>
    entry.starts protocol = true → before.Awaiting protocol)
    ⟨fun ⟨sources, starts⟩ => ⟨sources, starts⟩, fun orderly => ⟨orderly.sources, orderly.starts⟩⟩

theorem given_append : (log ++ more).given = log.given ++ more.given :=
  List.filterMap_append

theorem closed_append : (log ++ more).closed = log.closed ++ more.closed :=
  List.filterMap_append

theorem closed_eq_nil : log.closed = [] ↔ ∀ entry ∈ log, entry.closed? = none :=
  List.filterMap_eq_nil_iff

theorem Orderly.of_append (orderly : (log ++ more).Orderly protocol) : log.Orderly protocol where
  sources := by
    have nodup := orderly.sources
    rw [given_append] at nodup
    exact (List.nodup_append.mp nodup).1
  starts before entry after split :=
    orderly.starts before entry (after ++ more) (by rw [split]; simp)

/-- Audio is only sent by a thread, and not after its source was closed. -/
def SentOpen (log : Chronicle) : Prop :=
  log.Always fun before entry => ∀ during frame, entry = .seen during (.sent frame) →
    frame.method? = some .sendAudio → ∃ s, during = .stream s ∧ s.source ∉ before.closed

end Chronicle

/-- How the thread and the source of a recognizer stand to what was seen. -/
structure Streaming (protocol : ServerProtocol) (e : Engine) (log : Chronicle) : Prop where
  single : e.threads.length ≤ 1
  source : ∀ s, e.handle.streamer = some s → e.handle.audioSource = some s.source
  active : ∀ s, e.handle.streamer = some s → e.handle.active = true
  playing : ∀ s, e.handle.streamer = some s → s.source ∉ log.closed
  waiting : log.Awaiting protocol → e.handle.streamer = none ∧
    ∀ i, e.handle.audioSource = some i → i ∉ log.closed
  known : ∀ i, e.handle.audioSource = some i ∨ i ∈ log.closed → i ∈ log.given
  sent : log.SentOpen

namespace Streaming

variable {protocol : ServerProtocol} {a b : Engine} {log : Chronicle}

theorem idle (streaming : Streaming protocol a log) (inactive : a.handle.active = false) :
    a.handle.streamer = none := by
  by_contra running
  obtain ⟨s, running⟩ := Option.ne_none_iff_exists'.mp running
  rw [streaming.active s running] at inactive
  cases inactive

/-- The source of another recognition was not closed. -/
theorem unclosed (streaming : Streaming protocol a log) {source : SourceId} {model : LanguageModel}
    {more : Chronicle}
    (orderly : (log ++ .began (.recognize source model) :: more).Orderly protocol) :
    source ∉ log.closed := by
  intro closed
  have nodup := orderly.sources
  rw [Chronicle.given_append] at nodup
  have given : source ∈ Chronicle.given (.began (.recognize source model) :: more) :=
    List.mem_cons_self ..
  exact (List.nodup_append.mp nodup).2.2 source (streaming.known source (.inr closed)) source
    given rfl

theorem congr (streaming : Streaming protocol a log) (single : b.threads.length ≤ 1)
    (streamer : b.handle.streamer = a.handle.streamer)
    (audioSource : b.handle.audioSource = a.handle.audioSource)
    (active : b.handle.active = a.handle.active) : Streaming protocol b log where
  single := single
  source := by rw [streamer, audioSource]; exact streaming.source
  active := by rw [streamer, active]; exact streaming.active
  playing := by rw [streamer]; exact streaming.playing
  waiting := by rw [streamer, audioSource]; exact streaming.waiting
  known := by rw [audioSource]; exact streaming.known
  sent := streaming.sent

/-- Entries that close nothing leave all as it stands. -/
theorem append (streaming : Streaming protocol a log) {more : Chronicle}
    (plain : ∀ entry ∈ more, entry.closed? = none)
    (waiting : (log ++ more).Awaiting protocol → a.handle.streamer = none ∧
      ∀ i, a.handle.audioSource = some i → i ∉ log.closed)
    (sent : (log ++ more).SentOpen) : Streaming protocol a (log ++ more) := by
  have closed : (log ++ more).closed = log.closed := by
    rw [Chronicle.closed_append, Chronicle.closed_eq_nil.mpr plain, List.append_nil]
  refine ⟨streaming.single, streaming.source, streaming.active, ?_, ?_, ?_, sent⟩
  · rw [closed]
    exact streaming.playing
  · rw [closed]
    exact waiting
  · intro i
    rw [closed, Chronicle.given_append]
    exact fun known => List.mem_append_left _ (streaming.known i known)

/-- The thread is gone, and sources of the recognition may have been closed. -/
theorem silence (streaming : Streaming protocol a log) (single : b.threads.length ≤ 1)
    (idle : b.handle.streamer = none) (during : Operation) (sources : List SourceId)
    (closing : ∀ i ∈ sources, a.handle.audioSource = some i)
    (kept : ∀ i, b.handle.audioSource = some i → a.handle.audioSource = some i ∧
      (log.Awaiting protocol → i ∉ sources)) :
    Streaming protocol b (log ++ sources.map fun i => .seen during (.audioClosed i)) := by
  have closed : (log ++ sources.map fun i => Entry.seen during (.audioClosed i)).closed =
      log.closed ++ sources := by
    rw [Chronicle.closed_append]
    simp [Chronicle.closed, List.filterMap_map, Function.comp_def, Entry.closed?]
  refine ⟨single, ?_, ?_, ?_, ?_, ?_, ?_⟩
  · simp [idle]
  · simp [idle]
  · simp [idle]
  · intro awaiting
    have awaiting := (awaiting.of_append (by simp [Entry.accepts])).1
    refine ⟨idle, fun i audio => ?_⟩
    obtain ⟨before, unclosed⟩ := kept i audio
    rw [closed, List.mem_append, not_or]
    exact ⟨(streaming.waiting awaiting).2 i before, unclosed awaiting⟩
  · intro i known
    rw [Chronicle.given_append]
    refine List.mem_append_left _ (streaming.known i ?_)
    rw [closed, List.mem_append] at known
    obtain audio | before | now := known
    · exact .inl (kept i audio).1
    · exact .inr before
    · exact .inl (closing i now)
  · refine streaming.sent.append fun before entry member during frame same => ?_
    obtain ⟨i, -, rfl⟩ := List.mem_map.mp member
    cases same

/-- The thread is gone, and nothing was closed. -/
theorem idled (streaming : Streaming protocol a log) (single : b.threads.length ≤ 1)
    (idle : b.handle.streamer = none)
    (audioSource : b.handle.audioSource = a.handle.audioSource) : Streaming protocol b log := by
  have same := streaming.silence single idle .close [] (by simp) fun i audio =>
    ⟨audioSource ▸ audio, by simp⟩
  simpa using same

end Streaming

namespace Engine

open Chronicle (Orderly Awaiting)

variable {ep : Episode} {e e' : Engine} {log : Chronicle} {protocol : ServerProtocol}

/-- A stream that the server starts for the recognition will be one of a recognition that runs. -/
def Startable (e : Engine) : Prop :=
  e.handle.audioSource = none ∨ e.handle.active = true

/-- Audio is sent in a round of the thread that runs. -/
theorem Sends.audio_inv {taken : Prop} {frame : Frame} (sends : Sends ep e taken frame)
    (audio : frame.method? = some .sendAudio) :
    ∃ s, ep.operation = .stream s ∧ s ∈ e.threads := by
  cases sends with
  | release => simp [Request.releaseSession_method?] at audio
  | cancel => simp [Request.cancelRecognition_method?] at audio
  | timers => simp [Request.startInputTimers_method?] at audio
  | first _ _ requested =>
    unfold firstRequest at requested
    split at requested
    · cases requested
      simp [Request.createSession_method?] at audio
    · rw [Request.startRecognition_method? requested] at audio
      cases audio
  | follow _ asked =>
    cases Handle.transition_brings asked with
    | parameters p _ same =>
      rw [same, Request.setParameters_method?] at audio
      cases audio
    | start _ made =>
      rw [Request.startRecognition_method? made] at audio
      cases audio
  | audio streamed running => exact ⟨_, streamed, running⟩

theorem tryStreaming_of_idle (link : Link) (idle : e.handle.streamer = none) (source : SourceId) :
    e.tryStreaming link source = if link.threadFailure.isSome then e else
      { e with
        handle := { e.handle with streamer := some ⟨e.nextThread, source⟩ }
        threads := e.threads ++ [⟨e.nextThread, source⟩]
        nextThread := e.nextThread + 1 } := by
  unfold tryStreaming
  cases link.threadFailure with
  | some error => simp [stopStreamer, idle]
  | none => simp [startStreaming, idle]

/-- A thread starts where none runs, and its source has not been closed. -/
theorem dispatch_streaming (link : Link) (held : e.Held) (streaming : Streaming protocol e log)
    (event : Inbound) (starting : event.starts = true →
      e.handle.streamer = none ∧ ¬log.Awaiting protocol ∧
        ∀ i, e.handle.audioSource = some i → i ∉ log.closed ∧ e.handle.active = true) :
    Streaming protocol (e.dispatch link event) log ∧ (e.dispatch link event).trace = e.trace := by
  let changed := e.onHandle fun h => (h.transition event e.settings.parameters).1
  obtain ⟨state, pending, fields, -⟩ := e.handle.transition_fields event e.settings.parameters
  have handle : changed.handle = { e.handle with state, cancelPending := pending } := fields
  have plain : Streaming protocol changed log :=
    streaming.congr streaming.single (by rw [handle]) (by rw [handle]) (by rw [handle])
  cases starts : event.starts with
  | false =>
    rw [dispatch_of_not_starts starts]
    exact ⟨plain, rfl⟩
  | true =>
    obtain ⟨idle, settled, fresh⟩ := starting starts
    have idle' : changed.handle.streamer = none := by rw [handle, ← idle]
    rw [dispatch_of_starts starts]
    cases audio : e.handle.audioSource with
    | none => exact ⟨plain, rfl⟩
    | some source =>
      obtain ⟨unclosed, active⟩ := fresh source audio
      change Streaming protocol (changed.tryStreaming link source) log ∧
        (changed.tryStreaming link source).trace = e.trace
      rw [tryStreaming_of_idle link idle']
      split
      · exact ⟨plain, rfl⟩
      · refine ⟨⟨?_, ?_, ?_, ?_, ?_, ?_, streaming.sent⟩, rfl⟩
        · have still : changed.threads = [] := held.threads_eq_nil idle
          simp [still]
        · rintro s ⟨⟩
          exact (congrArg Handle.audioSource handle).trans audio
        · rintro s ⟨⟩
          exact (congrArg Handle.active handle).trans active
        · rintro s ⟨⟩
          exact unclosed
        · exact fun awaiting => absurd awaiting settled
        · exact plain.known

theorem stopStreamer_streaming (held : e.Held) (streaming : Streaming protocol e log)
    (during : Operation) : Streaming protocol e.stopStreamer
      (log ++ (e.handle.streamer.map (·.source)).toList.map fun i =>
        .seen during (.audioClosed i)) := by
  have handle := stopStreamer_handle e
  refine streaming.silence ?_ (by rw [handle]) during _ ?_ ?_
  · simp [stopStreamer_threads held]
  · intro i member
    obtain ⟨s, current, rfl⟩ := Option.map_eq_some_iff.mp (Option.mem_toList.mp member)
    exact streaming.source s current
  · intro i audio
    rw [handle] at audio
    refine ⟨audio, fun awaiting => ?_⟩
    -- While a recognition is awaited there is no thread, and so nothing is closed with it.
    rw [(streaming.waiting awaiting).1]
    simp

theorem forget_streaming (held : e.Held) (streaming : Streaming protocol e log)
    (idle : e.handle.streamer = none) (during : Operation) : Streaming protocol e.forget
      (log ++ e.handle.audioSource.toList.map fun i => .seen during (.audioClosed i)) := by
  have handle := forget_handle e
  refine streaming.silence ?_ ?_ during _ ?_ ?_
  · simp [forget_threads, held.threads_eq_nil idle]
  · rw [handle]
    exact idle
  · exact fun i member => Option.mem_toList.mp member
  · intro i audio
    rw [handle] at audio
    cases audio

/-- The sources that a move closes, in the chronicle. -/
theorem upTo_closings (moves : Moves ep ep.start e) {source : Option SourceId}
    (seen : e'.trace = e.trace ++ closings source) :
    ep.upTo e' = ep.upTo e ++ source.toList.map fun i => .seen ep.operation (.audioClosed i) := by
  rw [Episode.upTo_append moves.grows seen, closings, List.map_map]
  rfl

theorem observe_streaming (moves : Moves ep ep.start e) (held : e.Held)
    (streaming : Streaming protocol e (log ++ ep.upTo e)) {o : Observation}
    (observes : Observes ep e o) :
    Streaming protocol (e.observe o) (log ++ ep.upTo (e.observe o)) := by
  rw [Episode.upTo_observe moves.grows, ← List.append_assoc]
  have same : Streaming protocol (e.observe o) (log ++ ep.upTo e) :=
    streaming.congr streaming.single rfl rfl rfl
  refine same.append ?_ (fun awaiting => ?_) (Chronicle.always_concat.mpr ⟨streaming.sent, ?_⟩)
  · intro entry member
    rw [List.mem_singleton.mp member]
    cases observes with
    | _ => rfl
  · exact same.waiting (awaiting.of_append (by simp [Entry.accepts])).1
  · intro during frame seen audio
    obtain ⟨rfl, rfl⟩ := Entry.seen.inj seen
    cases observes with
    | sent sends =>
      obtain ⟨s, streamed, running⟩ := sends.audio_inv audio
      exact ⟨s, streamed, streaming.playing s (held s running)⟩

/-- A recognition begins with a source that nothing was done with. -/
theorem begin_streaming {source : SourceId} {model : LanguageModel}
    (before : Streaming protocol e log) (idle : e.handle.streamer = none) {during : Operation}
    (asked : during = .recognize source model)
    (orderly : (log ++ [Entry.began during]).Orderly protocol)
    (streaming : Streaming protocol e (log ++ [.began during])) :
    Streaming protocol (e.onHandle (·.begin source model)) (log ++ [.began during]) := by
  subst asked
  have given : (log ++ [Entry.began (.recognize source model)]).given = log.given ++ [source] :=
    Chronicle.given_append
  have closed : (log ++ [Entry.began (.recognize source model)]).closed = log.closed :=
    Chronicle.closed_append.trans (List.append_nil _)
  refine ⟨streaming.single, ?_, ?_, ?_, fun _ => ⟨idle, ?_⟩, ?_, streaming.sent⟩
  · exact fun s current => absurd (idle.symm.trans current) (by simp)
  · exact fun s current => absurd (idle.symm.trans current) (by simp)
  · exact fun s current => absurd (idle.symm.trans current) (by simp)
  · rintro i ⟨⟩
    rw [closed]
    exact before.unclosed orderly
  · rintro i (⟨⟨⟩⟩ | shut)
    · rw [given]
      exact List.mem_append_right _ (List.mem_singleton_self _)
    · exact streaming.known i (.inr shut)

section Moves

variable (known : ep.start.settings.protocol = protocol) (before : Streaming protocol ep.start log)
variable (startable : log.Awaiting protocol → ep.start.Startable)
include known before startable

/-- The recognition that is reported to have started was awaited, and is not any more. -/
theorem starting_of_orderly {event : Inbound} (brought : ep.event? = some event)
    (orderly : (log ++ ep.upTo e).Orderly protocol) (starts : event.starts = true) :
    ep.start.handle.streamer = none ∧ ¬Awaiting protocol (log ++ ep.opening) ∧
      ∀ i, ep.start.handle.audioSource = some i →
        i ∉ (log ++ ep.opening).closed ∧ ep.start.handle.active = true := by
  obtain ⟨-, read, opening⟩ := Episode.opening_of_event? brought
  rw [known] at read
  have awaiting : log.Awaiting protocol := by
    have split : log ++ ep.upTo e =
        log ++ .began ep.operation :: (e.seenSince ep.start).map (.seen ep.operation) := by
      rw [Episode.upTo, opening]
      rfl
    exact orderly.starts _ _ _ split (by simp [Entry.starts, read, starts])
  obtain ⟨idle, fresh⟩ := before.waiting awaiting
  refine ⟨idle, ?_, fun i audio => ⟨?_, ?_⟩⟩
  · rw [opening, Awaiting, Chronicle.since_concat]
    simp [Entry.accepts, Entry.settles, Entry.starts, read, starts]
  · rw [opening, Chronicle.closed_append]
    simpa [Chronicle.closed, Entry.closed?] using fresh i audio
  · obtain absent | active := startable awaiting
    · rw [audio] at absent
      cases absent
    · exact active

theorem Move.streaming (moves : Moves ep ep.start e) (move : Move ep e e') (held : e.Held)
    (orderly : (log ++ ep.upTo e').Orderly protocol)
    (streaming : Streaming protocol e (log ++ ep.upTo e)) :
    Streaming protocol e' (log ++ ep.upTo e') := by
  have unasked {source : SourceId} {model : LanguageModel}
      (asked : ep.operation = .recognize source model) : ep.event? = none := by
    simp [Episode.event?, asked]
  cases move with
  | observed observes => exact observe_streaming moves held streaming observes
  | stopped =>
    rw [upTo_closings moves (stopStreamer_trace e), ← List.append_assoc]
    exact stopStreamer_streaming held streaming ep.operation
  | forgotten idle =>
    rw [upTo_closings moves (forget_trace e), ← List.append_assoc]
    exact forget_streaming held streaming idle ep.operation
  | @recorded _ outcome =>
    exact streaming.congr streaming.single (e.handle.commit_streamer outcome)
      (e.handle.commit_audioSource outcome) (e.handle.commit_active outcome)
  | @begun source model asked usable inactive =>
    have opening : ep.opening = [.began ep.operation] := by simp [Episode.opening, asked]
    have same : ep.upTo (ep.start.onHandle (·.begin source model)) = [.began ep.operation] :=
      (Episode.upTo_of_trace_eq rfl).trans ((Episode.upTo_start ep).trans opening)
    rw [same] at orderly ⊢
    rw [Episode.upTo_start, opening] at streaming
    exact begin_streaming before (before.idle inactive) asked orderly streaming
  | abandoned _ asked failed inactive =>
    have gone := moves.idle (unasked asked) (before.idle inactive)
    rw [Episode.upTo_of_trace_eq rfl]
    exact streaming.idled streaming.single gone rfl
  | @dispatched link event brought =>
    rw [Episode.upTo_start] at streaming
    obtain ⟨dispatched, unseen⟩ := dispatch_streaming link held streaming event
      (starting_of_orderly known before startable brought orderly)
    rw [Episode.upTo_of_trace_eq unseen, Episode.upTo_start]
    exact dispatched
  | given =>
    -- The outcome is given after the thread is stopped, and that is not seen.
    have stopped := stopStreamer_streaming held streaming ep.operation
    rw [List.append_assoc, ← upTo_closings moves (stopStreamer_trace ep.start)] at stopped
    have same : ep.upTo ep.start.giveOutcome = ep.upTo ep.start.stopStreamer :=
      Episode.upTo_of_trace_eq rfl
    rw [same]
    exact stopped.idled stopped.single (by rw [giveOutcome_handle]; rfl) rfl
  | threadEnded asked =>
    exact streaming.congr ((List.length_filter_le ..).trans streaming.single) rfl rfl rfl
  | _ => exact streaming.congr streaming.single rfl rfl rfl

end Moves

/-! ## Operations -/

theorem Move.startable (move : Move ep e e')
    (other : ∀ source model, ep.operation ≠ .recognize source model)
    (going : ep.operation ≠ .wait) (startable : e.Startable) : e'.Startable := by
  cases move with
  | stopped =>
    unfold Startable
    rw [stopStreamer_handle]
    exact startable
  | forgotten =>
    unfold Startable
    rw [forget_handle]
    exact .inl rfl
  | @recorded _ outcome =>
    simpa [Startable, onHandle] using startable
  | begun asked => exact absurd asked (other _ _)
  | abandoned _ asked => exact absurd asked (other _ _)
  | @dispatched link event =>
    obtain ⟨_, _, _, handle⟩ := dispatch_fields link event ep.start
    unfold Startable
    rw [handle]
    exact startable
  | given waited => exact absurd waited going
  | _ => exact startable

section Operations

variable {depth : Nat} {outside : Outside} {operation : Operation}

theorem closed_upTo (unclosed : ∀ i, .audioClosed i ∉ e.seenSince ep.start) :
    (ep.upTo e).closed = [] := by
  refine Chronicle.closed_eq_nil.mpr fun entry member => ?_
  obtain rfl | ⟨o, seen, rfl⟩ := Episode.began_or_seen_of_mem_upTo member
  · rfl
  · cases o with
    | audioClosed i => exact absurd seen (unclosed i)
    | _ => rfl

theorem awaiting_of_upTo (awaiting : Awaiting protocol (log ++ ep.upTo e)) :
    Awaiting protocol log := by
  refine (Chronicle.Since.of_append awaiting fun entry member => ?_).1
  obtain rfl | ⟨o, -, rfl⟩ := Episode.began_or_seen_of_mem_upTo member
  · rfl
  · rfl

/-- Only an operation that accepts a recognition ends with another one to wait for. -/
theorem awaiting_of_ending (awaiting : Awaiting protocol (log ++ ep.upTo e ++ ep.ending))
    (refused : (∃ source model, ep.operation = .recognize source model) →
      ep.answer ≠ .reply .done) :
    Awaiting protocol (log ++ ep.upTo e) ∧ ∀ entry ∈ ep.ending, entry.settles protocol = false := by
  refine Chronicle.Since.of_append awaiting fun entry member => Bool.eq_false_iff.mpr ?_
  intro accepts
  obtain ⟨asked, done⟩ := Episode.asked_of_mem_ending member accepts
  exact refused asked done

theorem step_startable (other : ∀ source model, operation ≠ .recognize source model)
    (startable : e.Startable)
    (unsettled : ∀ entry ∈ (e.episode depth outside operation).ending,
      entry.settles protocol = false) : (e.step depth outside operation).2.Startable := by
  by_cases waited : operation = .wait
  · subst waited
    cases decided : e.isOpen && e.handle.stillWaiting with
    | true =>
      have same : (e.step depth outside .wait).2 = e := by
        simp only [step, waitResult, decided, if_true]
      exact same.symm ▸ startable
    | false =>
      have taken : .taken ∈ (e.episode depth outside .wait).ending := by
        simp [Episode.ending, episode, decided]
      have settles := unsettled .taken taken
      cases settles
  · exact (episode_moves depth outside operation e).keep
      (fun move => move.startable other waited) startable

/-- A recognition that is awaited when an operation has ended was awaited before, or it is the one
that was just accepted. -/
theorem step_awaiting (startable : Awaiting protocol log → e.Startable)
    (awaiting : Awaiting protocol (log ++ (e.episode depth outside operation).upTo
      (e.step depth outside operation).2 ++ (e.episode depth outside operation).ending)) :
    (Awaiting protocol (log ++ (e.episode depth outside operation).upTo
        (e.step depth outside operation).2) ∧ (e.step depth outside operation).2.Startable) ∨
      ∃ source model, operation = .recognize source model ∧ e.handle.active = false ∧
        (e.step depth outside operation).2.handle = e.handle.begin source model ∧
        ∀ i, .audioClosed i ∉ (e.step depth outside operation).2.seenSince e := by
  by_cases asked : ∃ source model, operation = .recognize source model
  -- A request that is refused changes nothing, and one that failed settles what was awaited.
  · obtain ⟨source, model, rfl⟩ := asked
    obtain ⟨refused, same⟩ | ⟨inactive, ⟨-, begun, unclosed⟩ | ⟨⟨refusal, failed⟩, -⟩⟩ :=
      recognize_cases depth outside source model e
    · have awaited := (awaiting_of_ending awaiting fun _ done => by
        obtain refused | refused := refused
        · cases refused.symm.trans done
        · cases refused.symm.trans done).1
      exact .inl ⟨awaited, same.symm ▸ startable (awaiting_of_upTo awaited)⟩
    · exact .inr ⟨source, model, rfl, inactive, begun, unclosed⟩
    · have unsettled := (awaiting_of_ending awaiting fun _ done => by
        cases failed.symm.trans done).2 _ (Episode.ended_mem_ending _)
      have answered : (e.episode depth outside (.recognize source model)).answer =
          .reply (.failed refusal.error) := failed
      rw [answered] at unsettled
      cases unsettled.symm.trans refusal.external
  · obtain ⟨awaited, unsettled⟩ := awaiting_of_ending awaiting fun recognizing =>
      absurd recognizing asked
    refine .inl ⟨awaited, step_startable ?_ (startable (awaiting_of_upTo awaited)) unsettled⟩
    exact fun source model same => asked ⟨source, model, same⟩

end Operations

/-! ## Runs -/

/-- Entries that are neither observations nor anything to wait for leave all as it stands. -/
theorem unseen_streaming (streaming : Streaming protocol e log) {more : Chronicle}
    (unseen : ∀ entry ∈ more, ∀ during o, entry ≠ .seen during o)
    (waiting : Awaiting protocol (log ++ more) → e.handle.streamer = none ∧
      ∀ i, e.handle.audioSource = some i → i ∉ log.closed) :
    Streaming protocol e (log ++ more) := by
  refine streaming.append ?_ waiting (streaming.sent.append ?_)
  · intro entry member
    cases entry with
    | seen during o => exact absurd rfl (unseen _ member during o)
    | _ => rfl
  · intro before entry member during frame same
    exact absurd same (unseen entry member during _)

theorem step_streaming {depth : Nat} {outside : Outside} {operation : Operation}
    (before : Streaming protocol e log) (startable : Awaiting protocol log → e.Startable)
    (orderly : (log ++ (e.episode depth outside operation).upTo
      (e.step depth outside operation).2).Orderly protocol)
    (streaming : Streaming protocol (e.step depth outside operation).2
      (log ++ (e.episode depth outside operation).upTo (e.step depth outside operation).2)) :
    let later := (log ++ (e.episode depth outside operation).upTo
      (e.step depth outside operation).2 ++ (e.episode depth outside operation).ending)
    Streaming protocol (e.step depth outside operation).2 later ∧
      (Awaiting protocol later → (e.step depth outside operation).2.Startable) := by
  intro later
  constructor
  · refine unseen_streaming streaming ?_ fun awaiting => ?_
    · intro entry member during o
      obtain rfl | ⟨rfl, -⟩ := Episode.ended_or_taken_of_mem_ending member
      · simp
      · simp
    · obtain ⟨awaited, -⟩ | ⟨source, model, rfl, inactive, handle, unclosed⟩ :=
        step_awaiting startable awaiting
      · exact streaming.waiting awaited
      · rw [handle, Chronicle.closed_append, closed_upTo unclosed, List.append_nil]
        refine ⟨before.idle inactive, ?_⟩
        rintro i ⟨⟩
        exact before.unclosed orderly
  · intro awaiting
    obtain ⟨-, startable⟩ | ⟨source, model, -, -, handle, -⟩ := step_awaiting startable awaiting
    · exact startable
    · exact .inr (by rw [handle]; rfl)

theorem Chronicled.streaming {first : Engine} (run : Chronicled first e log) (new : first.New)
    (orderly : log.Orderly first.settings.protocol) :
    Streaming first.settings.protocol e log := by
  suffices kept : Streaming first.settings.protocol e log ∧
      (Awaiting first.settings.protocol log → e.Startable) from kept.1
  revert orderly
  refine run.keep
    (P := fun e log => Orderly first.settings.protocol log →
      Streaming first.settings.protocol e log ∧
        (Awaiting first.settings.protocol log → e.Startable))
    (Q := fun _ e log => Orderly first.settings.protocol log →
      Streaming first.settings.protocol e log) ?_ ?_ ?_ ?_ ?_
  · intro _
    refine ⟨⟨?_, ?_, ?_, ?_, fun awaiting => absurd awaiting Chronicle.not_since_nil, ?_, ?_⟩,
      fun awaiting => absurd awaiting Chronicle.not_since_nil⟩
    · simp [new.threads]
    · simp [new.handle]
    · simp [new.handle]
    · simp [new.handle]
    · simp [new.handle, Chronicle.closed]
    · exact Chronicle.always_nil
  · intro e log source before orderly
    obtain ⟨streaming, startable⟩ := before orderly
    exact ⟨streaming.congr streaming.single rfl rfl rfl, startable⟩
  · intro ep log before orderly
    have streaming := (before orderly.of_append).1
    refine unseen_streaming streaming ?_ fun awaiting => ?_
    · intro entry member during o
      rw [Episode.began_of_mem_opening member]
      simp
    · rw [← Episode.upTo_start] at awaiting
      exact streaming.waiting (awaiting_of_upTo awaiting)
  · -- What is orderly up to a move was orderly before it.
    intro ep log a b run before earlier move streaming orderly
    have known : ep.start.settings.protocol = first.settings.protocol := by rw [run.same.1]
    have held : a.Held :=
      earlier.keep (fun move held => move.held held) (run.reachable (.new new)).held
    have orderlyBefore : (log ++ ep.upTo a).Orderly first.settings.protocol := by
      obtain ⟨o, -, -, seen⟩ | ⟨sources, seen⟩ := Episode.upTo_of_move earlier move
      · rw [seen, ← List.append_assoc] at orderly
        exact orderly.of_append
      · rw [seen, ← List.append_assoc] at orderly
        exact orderly.of_append
    obtain ⟨streamingFirst, startable⟩ := before orderlyBefore.of_append
    exact move.streaming known streamingFirst startable earlier held orderly
      (streaming orderlyBefore)
  · intro e log depth outside operation ep later _ before streaming orderly
    have orderly := orderly.of_append
    obtain ⟨streamingFirst, startable⟩ := before orderly.of_append
    exact step_streaming streamingFirst startable orderly (streaming orderly)

/-- If each recognition has a source of its own, and the server says only once of a recognition that
it has started, then at most one thread runs, and none when another one starts; a thread whose source
was closed does nothing, and audio is only sent from a source that is not closed. -/
theorem streams_of_orderly {first : Engine} (new : first.New) (run : Chronicled first e log)
    (orderly : log.Orderly first.settings.protocol) :
    e.threads.length ≤ 1 ∧
    (∀ octets event, Inbound.ofMessage? first.settings.protocol octets = some event →
      event.starts = true →
      Orderly first.settings.protocol (log ++ [.began (.message octets)]) → e.threads = []) ∧
    (∀ s : Streamer, s.source ∈ log.closed → ∀ depth outside,
      e.step depth outside (.stream s) = (.reply .done, e)) ∧
    ∀ before after during frame, log = before ++ .seen during (.sent frame) :: after →
      frame.method? = some .sendAudio →
      ∃ s, during = .stream s ∧ s.source ∉ Chronicle.closed before := by
  have streaming := run.streaming new orderly
  have held := (run.reachable (.new new)).held
  refine ⟨streaming.single, ?_, ?_, ?_⟩
  · intro octets event read starts further
    have awaiting := further.starts log _ [] rfl
      (by simp [Entry.starts, Operation.brings?, read, starts])
    exact held.threads_eq_nil (streaming.waiting awaiting).1
  · intro s closed depth outside
    have stopped : s ∉ e.threads := fun running => streaming.playing s (held s running) closed
    simp [step, turn, stopped]
  · intro before after during frame split audio
    exact streaming.sent before _ after split during frame rfl audio

/-- A recognition is canceled while its audio is streamed, and its thread has no more to do. -/
theorem streams_of_orderly_canceled :
    let outside : Outside := { Link.reliable with }
    let audio : OwnRead := { outcome := .ok (.data, [1, 2]) }
    let started := Operation.message
      (utf8 "ASR 2.4 RESPONSE\r\nMethod: START_RECOGNITION\r\nResult: SUCCESS\r\n\r\n")
    let known := (sample.attach (.own { reads := [audio, audio] })).2
    let begun := (known.step 0 outside (.recognize 0 (.ofUri "builtin:slm"))).2
    let streaming := (begun.step 0 outside started).2
    let sending := (streaming.step 0 outside (.stream ⟨0, 0⟩)).2
    let canceled := (sending.step 0 outside .cancel).2
    streaming.threads = [⟨0, 0⟩] ∧
      sending.trace = streaming.trace ++ [.sent (Request.sendAudio [1, 2] false)] ∧
      canceled.step 0 outside (.stream ⟨0, 0⟩) = (.reply .done, canceled) := by
  intro outside audio started known begun streaming sending canceled
  have run : Chronicled sample streaming _ :=
    ((Chronicled.start.attach _).step 0 outside _).step 0 outside started
  have run := (run.step 0 outside (.stream ⟨0, 0⟩)).step 0 outside .cancel
  refine ⟨by decide +kernel, by decide +kernel, ?_⟩
  exact (streams_of_orderly sample_new run (by decide +kernel)).2.2.1 ⟨0, 0⟩ (by decide +kernel) 0
    outside

/-- The server says twice that the recognition has started.  The second thread starts while the first
one runs, the source is closed with the first, and the second sends that the audio has ended. -/
theorem sent_from_closed_source :
    let outside : Outside := { Link.reliable with }
    let started := Operation.message
      (utf8 "ASR 2.4 RESPONSE\r\nMethod: START_RECOGNITION\r\nResult: SUCCESS\r\n\r\n")
    let known := (sample.attach (.own { reads := [] })).2
    let begun := (known.step 0 outside (.recognize 0 (.ofUri "builtin:slm"))).2
    let streaming := (begun.step 0 outside started).2
    let again := (streaming.step 0 outside started).2
    .seen started (.audioClosed 0) ∈ streaming.entries 0 outside started ∧
      .seen (.stream ⟨1, 0⟩) (.sent (Request.sendAudio [] true)) ∈
        again.entries 0 outside (.stream ⟨1, 0⟩) := by
  decide +kernel

end Engine

end SpeechClient
