import Mathlib.Logic.Relation
import SpeechClient.Proofs.Session.Observers

/-!
# Moves of a recognizer

A move is a single thing that happens to the recognizer in the course of an operation, with what is
known where it is made.  Callbacks come between the moves of an operation and use the recognizer
themselves, and that is moves again.  Whatever every move keeps, moves in a row keep.

- `Episode`: an operation on its way.
- `Engine.Move`, `Engine.Moves`: one move, and moves in a row.
- `Engine.seenSince`: what was seen on the way, which moves only add to.
-/

namespace SpeechClient

open Wire

structure Episode where
  operation : Operation
  answer : Answer
  start : Engine

/-- The event that the operation brings, if it is a message with one and there is somebody to bring
it to. -/
def Episode.event? (ep : Episode) : Option Inbound :=
  match ep.operation with
  | .message octets =>
    if ep.start.subscribed then Inbound.ofMessage? ep.start.settings.protocol octets else none
  | _ => none

/-- What is seen of a frame that is to be sent. -/
def Link.attempt (link : Link) (isOpen : Bool) (frame : Frame) : Observation :=
  match link.refuseSend isOpen frame with
  | some _ => .sendFailed frame
  | none => .sent frame

namespace Engine

/-- What was seen on the way from an earlier state. -/
def seenSince (e start : Engine) : List Observation :=
  e.trace.drop start.trace.length

/-- The last part of a close: session and recognition are forgotten, and the source is closed. -/
def forget (e : Engine) : Engine :=
  match e.handle.audioSource with
  | some i => closeSource i (e.onHandle Handle.reset)
  | none => e.onHandle Handle.reset

/-- The outcome goes to the caller, and the streaming thread is stopped. -/
def giveOutcome (e : Engine) : Engine :=
  e.stopStreamer.onHandle Handle.takeOutcome

/-- An event reaches the handle: the status changes, and streams are started. -/
def dispatch (link : Link) (event : Inbound) (e : Engine) : Engine :=
  startStreams link (e.handle.transition event e.settings.parameters).2
    (e.onHandle fun h => (h.transition event e.settings.parameters).1)

theorem process_eq (link : Link) (notify : Notify) (event : Inbound) (e : Engine) :
    process link notify event e =
      let result := (e.handle.transition event e.settings.parameters).2.foldl
        (perform link notify) ([], e.dispatch link event)
      result.2.onHandle fun h => (h.record result.1).2 := rfl

/-- Frames that go out, and whether the connection takes them.  Those of the actions can go out
anywhere, the others only where one operation sends them. -/
inductive Sends (ep : Episode) (e : Engine) (taken : Prop) : Frame → Prop where
  | release : Sends ep e taken Request.releaseSession
  | cancel : Sends ep e taken Request.cancelRecognition
  | timers : Sends ep e taken Request.startInputTimers
  | first {source : SourceId} {model : LanguageModel} {frame : Frame} :
      ep.operation = .recognize source model → (taken → ep.answer = .reply .done) →
      e.firstRequest = .ok frame → Sends ep e taken frame
  | follow {event : Inbound} {frame : Frame} : ep.event? = some event →
      .send frame ∈ (ep.start.handle.transition event ep.start.settings.parameters).2 →
      Sends ep e taken frame
  | audio {s : Streamer} {status : ReadStatus} {bytes : Bytes} {frame : Frame} :
      ep.operation = .stream s → s ∈ e.threads → packet? status bytes = some frame →
      Sends ep e taken frame

/-- Why outcomes are recorded. -/
inductive Records (ep : Episode) (e : Engine) : Commit → Prop where
  /-- A cancel without a connection. -/
  | canceled : e.handle.recognizing = true → e.isOpen = false → Records ep e (.finish true)
  | cancelRefused (error : RecognitionError) :
      .sendFailed Request.cancelRecognition ∈ e.seenSince ep.start → Records ep e (.fail error)
  | brought {event : Inbound} (outcome : Commit) : ep.event? = some event → Records ep e outcome
  | lost {reason : String} : ep.operation = .lost reason →
      ep.start.handle.recognizing = true → Records ep e (.fail (.connectionFailure reason))
  | streamFailed {s : Streamer} (error : RecognitionError) : ep.operation = .stream s →
      s ∈ ep.start.threads → Records ep e (.fail error)

def Heard (e start : Engine) (n : Notification) : Prop :=
  ∀ i < e.listeners, .notified i n ∈ e.seenSince start

/-- Results and failures have been told to the listeners. -/
def Announced (ep : Episode) (e : Engine) : Commit → Prop
  | .result result _ => e.Heard ep.start (.result result)
  | .fail error => e.Heard ep.start (.error error)
  | .finish _ => True

/-- What is known when an action has come to its end. -/
def Completed (e : Engine) : Action → Reply → Prop
  | .close, _ => e.handle = {} ∧ e.isOpen = false
  | .cancel, .done => e.handle.streamer = none ∧
      (e.settings.autoClose = true → e.handle = {} ∧ e.isOpen = false)
  | _, _ => True

/-- The operation changes what sources hold. -/
def HandlesAudio (ep : Episode) (e : Engine) : Prop :=
  match ep.operation with
  | .write _ _ | .finish _ => True
  | .stream s => s ∈ e.threads
  | _ => False

/-- What can be seen, apart from sources that are closed, and what is known then. -/
inductive Observes (ep : Episode) (e : Engine) : Observation → Prop where
  | told (listener : Nat) (n : Notification) : Observes ep e (.notified listener n)
  | acted {action : Action} {reply : Reply} : e.Completed action reply →
      Observes ep e (.acted action reply)
  | sent {frame : Frame} : Sends ep e True frame → Observes ep e (.sent frame)
  | refused {frame : Frame} : Sends ep e False frame → Observes ep e (.sendFailed frame)
  | opened {source : SourceId} {model : LanguageModel} :
      ep.operation = .recognize source model → Observes ep e (.opened e.endpoint)
  | closed : e.isOpen = false → Observes ep e .closed
  | unstarted {event : Inbound} (source : SourceId) : ep.event? = some event →
      Observes ep e (.threadRefused source)

/-- One thing that happens in an episode.  What only one operation does is done once, at the start
of its episode. -/
inductive Move (ep : Episode) : Engine → Engine → Prop where
  | observed {e : Engine} {o : Observation} : Observes ep e o → Move ep e (e.observe o)
  | stopped (e : Engine) : Move ep e e.stopStreamer
  | hungUp {e : Engine} : e.handle.streamer = none → Move ep e { e with isOpen := false }
  | forgotten {e : Engine} : e.handle.streamer = none → e.isOpen = false → Move ep e e.forget
  | cancelAsked {e : Engine} : e.handle.recognizing = true → e.isOpen = true →
      Move ep e (e.onHandle fun h => { h with cancelPending := true })
  | recorded {e : Engine} {outcome : Commit} : Records ep e outcome → Announced ep e outcome →
      Move ep e (e.onHandle (·.commit outcome))
  | begun {source : SourceId} {model : LanguageModel} : ep.operation = .recognize source model →
      model.usable = true → ep.start.handle.active = false →
      Move ep ep.start (ep.start.onHandle (·.begin source model))
  | connected (e : Engine) {source : SourceId} {model : LanguageModel} :
      ep.operation = .recognize source model →
      Move ep e { e with isOpen := true, subscribed := true }
  | abandoned (e : Engine) {source : SourceId} {model : LanguageModel} :
      ep.operation = .recognize source model → ep.answer ≠ .reply .done →
      ep.start.handle.active = false →
      Move ep e (e.onHandle fun h => { h.finishRecognition with active := false })
  | dispatched (link : Link) {event : Inbound} : ep.event? = some event →
      Move ep ep.start (ep.start.dispatch link event)
  | given : ep.operation = .wait → (ep.start.isOpen && ep.start.handle.stillWaiting) = false →
      Move ep ep.start ep.start.giveOutcome
  | sessionLost {reason : String} : ep.operation = .lost reason → ep.start.subscribed = true →
      Move ep ep.start (ep.start.onHandle fun h => { h with state := .none })
  | disconnected (e : Engine) : (ep.operation = .vanish ∨ ∃ reason, ep.operation = .lost reason) →
      Move ep e { e with isOpen := false }
  | audioHandled {e : Engine} (sources : List AudioSource) : HandlesAudio ep e →
      Move ep e { e with sources }
  | threadEnded (e : Engine) {s : Streamer} : ep.operation = .stream s → Move ep e (e.endThread s)

abbrev Moves (ep : Episode) : Engine → Engine → Prop := Relation.ReflTransGen (Move ep)

theorem Move.moves {ep : Episode} {e e' : Engine} (move : Move ep e e') : Moves ep e e' :=
  Relation.ReflTransGen.single move

/-- What every move keeps, given the moves before it, a row keeps. -/
theorem Moves.keepOn {ep : Episode} {P : Engine → Prop} {e e' : Engine}
    (one : ∀ {a b}, Moves ep e a → Move ep a b → P a → P b)
    (moves : Moves ep e e') (before : P e) : P e' := by
  induction moves with
  | refl => exact before
  | tail earlier move kept => exact one earlier move kept

/-- What every move keeps, moves in a row keep. -/
theorem Moves.keep {ep : Episode} {P : Engine → Prop}
    (one : ∀ {e e'}, Move ep e e' → P e → P e') {e e' : Engine} (moves : Moves ep e e')
    (before : P e) : P e' :=
  moves.keepOn (fun _ => one) before

/-! ## What was seen -/

theorem send_snd (link : Link) (frame : Frame) (e : Engine) :
    (send link frame e).2 = e.observe (link.attempt e.isOpen frame) := by
  unfold send Link.attempt
  cases link.refuseSend e.isOpen frame with
  | some reason => rfl
  | none => rfl

def closings (source : Option SourceId) : List Observation :=
  source.toList.map .audioClosed

theorem stopStreamer_trace (e : Engine) :
    e.stopStreamer.trace = e.trace ++ closings (e.handle.streamer.map (·.source)) := by
  unfold stopStreamer
  split
  next s running =>
    rw [running]
    rfl
  next absent =>
    rw [absent]
    exact (List.append_nil _).symm

theorem forget_trace (e : Engine) : e.forget.trace = e.trace ++ closings e.handle.audioSource := by
  unfold forget
  split
  next i known =>
    rw [known]
    rfl
  next unknown =>
    rw [unknown]
    exact (List.append_nil _).symm

theorem startStreaming_trace (source : SourceId) (e : Engine) :
    (e.startStreaming source).trace =
      e.trace ++ closings (e.handle.streamer.map (·.source)) := by
  unfold startStreaming
  dsimp only
  split
  next old running =>
    rw [running]
    rfl
  next absent =>
    rw [absent]
    exact (List.append_nil _).symm

theorem tryStreaming_trace (link : Link) (source : SourceId) (e : Engine) :
    (tryStreaming link source e).trace =
      e.trace ++ closings (e.handle.streamer.map (·.source)) := by
  unfold tryStreaming
  split
  · exact stopStreamer_trace e
  · exact startStreaming_trace source e

theorem startStreams_trace (link : Link) (effects : List Effect) (e : Engine) :
    ∃ sources : List SourceId,
      (startStreams link effects e).trace = e.trace ++ sources.map .audioClosed := by
  unfold startStreams
  induction effects generalizing e with
  | nil => exact ⟨[], (List.append_nil _).symm⟩
  | cons effect rest after =>
    cases effect with
    | startStreaming source =>
      obtain ⟨sources, later⟩ := after (tryStreaming link source e)
      refine ⟨(e.handle.streamer.map (·.source)).toList ++ sources, later.trans ?_⟩
      rw [tryStreaming_trace, List.map_append, List.append_assoc]
      rfl
    | send frame => exact after e
    | notify n => exact after e
    | commit outcome => exact after e

variable {ep : Episode} {e e' : Engine}

/-- A move is one observation, or sources are closed and nothing else can be seen of it. -/
theorem Move.seen (move : Move ep e e') : (∃ o, Observes ep e o ∧ e' = e.observe o) ∨
    ∃ sources : List SourceId, e'.trace = e.trace ++ sources.map .audioClosed := by
  cases move with
  | observed observes => exact .inl ⟨_, observes, rfl⟩
  | stopped => exact .inr ⟨_, stopStreamer_trace e⟩
  | forgotten => exact .inr ⟨_, forget_trace e⟩
  | dispatched => exact .inr (startStreams_trace _ _ (ep.start.onHandle _))
  | given => exact .inr ⟨_, stopStreamer_trace ep.start⟩
  | _ => exact .inr ⟨[], (List.append_nil _).symm⟩

theorem Move.grows (move : Move ep e e') : e.trace <+: e'.trace := by
  obtain ⟨o, -, rfl⟩ | ⟨sources, seen⟩ := move.seen
  · exact List.prefix_append _ _
  · exact ⟨_, seen.symm⟩

theorem Moves.grows (moves : Moves ep e e') : e.trace <+: e'.trace :=
  moves.keep (P := fun later => e.trace <+: later.trace)
    (fun move (before : _ <+: _) => before.trans move.grows) List.prefix_rfl

theorem Move.same (move : Move ep e e') :
    e'.settings = e.settings ∧ e'.listeners = e.listeners := by
  cases move with
  | stopped =>
    have face := stopStreamer_face e
    exact ⟨congrArg Face.settings face, congrArg Face.listeners face⟩
  | forgotten =>
    unfold forget
    split
    · exact ⟨rfl, rfl⟩
    · exact ⟨rfl, rfl⟩
  | dispatched =>
    obtain ⟨streamer, face⟩ := startStreams_face _ (ep.start.onHandle _) _
    exact ⟨congrArg Face.settings face, congrArg Face.listeners face⟩
  | given =>
    have face := stopStreamer_face ep.start
    exact ⟨congrArg Face.settings face, congrArg Face.listeners face⟩
  | _ => exact ⟨rfl, rfl⟩

theorem Moves.same (moves : Moves ep e e') :
    e'.settings = e.settings ∧ e'.listeners = e.listeners :=
  moves.keep (P := fun later => later.settings = e.settings ∧ later.listeners = e.listeners)
    (fun move before => ⟨move.same.1.trans before.1, move.same.2.trans before.2⟩) ⟨rfl, rfl⟩

theorem seenSince_of_trace {more : List Observation} (seen : e'.trace = e.trace ++ more) :
    e'.seenSince e = more := by
  simp [seenSince, seen]

theorem seenSince_self (e : Engine) : e.seenSince e = [] :=
  seenSince_of_trace (List.append_nil _).symm

theorem seenSince_append {start : Engine} {more : List Observation}
    (since : start.trace <+: e.trace) (seen : e'.trace = e.trace ++ more) :
    e'.seenSince start = e.seenSince start ++ more := by
  unfold seenSince
  rw [seen, List.drop_append_of_le_length since.length_le]

theorem seenSince_observe {start : Engine} (since : start.trace <+: e.trace) (o : Observation) :
    (e.observe o).seenSince start = e.seenSince start ++ [o] :=
  seenSince_append since rfl

theorem seenSince_trans {e'' : Engine} (first : e.trace <+: e'.trace)
    (second : e'.trace <+: e''.trace) :
    e''.seenSince e = e'.seenSince e ++ e''.seenSince e' := by
  obtain ⟨more, seen⟩ := second
  rw [seenSince_append first seen.symm]
  simp [seenSince, ← seen]

theorem mem_seenSince_of_grown {start : Engine} {o : Observation} (later : e.trace <+: e'.trace)
    (seen : o ∈ e.seenSince start) : o ∈ e'.seenSince start := by
  obtain ⟨more, later⟩ := later
  unfold seenSince at seen ⊢
  rw [← later, List.drop_append]
  exact List.mem_append_left _ seen

theorem stopStreamer_handle (e : Engine) :
    e.stopStreamer.handle = { e.handle with streamer := none } :=
  congrArg Face.handle (stopStreamer_face e)

theorem forget_handle (e : Engine) : e.forget.handle = e.handle.reset := by
  unfold forget
  split <;> rfl

theorem forget_threads (e : Engine) : e.forget.threads = e.threads := by
  unfold forget
  split <;> rfl

theorem giveOutcome_handle (e : Engine) : e.giveOutcome.handle = e.handle.takeOutcome := by
  change e.stopStreamer.handle.takeOutcome = _
  rw [stopStreamer_handle]
  rfl

theorem dispatch_handle (link : Link) (event : Inbound) (e : Engine) : ∃ streamer,
    (e.dispatch link event).handle =
      { (e.handle.transition event e.settings.parameters).1 with streamer } := by
  let changed := e.onHandle fun h => (h.transition event e.settings.parameters).1
  obtain ⟨streamer, face⟩ :=
    startStreams_face link changed (e.handle.transition event e.settings.parameters).2
  have handle : (e.dispatch link event).handle = { changed.handle with streamer } :=
    congrArg Face.handle face
  exact ⟨streamer, handle⟩

theorem dispatch_fields (link : Link) (event : Inbound) (e : Engine) : ∃ state pending streamer,
    (e.dispatch link event).handle =
      { e.handle with state, cancelPending := pending, streamer } := by
  obtain ⟨state, pending, fields, -⟩ := e.handle.transition_fields event e.settings.parameters
  obtain ⟨streamer, handle⟩ := dispatch_handle link event e
  exact ⟨state, pending, streamer, by rw [handle, fields]⟩

theorem Heard.later {start : Engine} {n : Notification} (heard : e.Heard start n)
    (moves : Moves ep e e') : e'.Heard start n := by
  intro i bound
  rw [moves.same.2] at bound
  exact mem_seenSince_of_grown moves.grows (heard i bound)

theorem Announced.later {outcome : Commit} (announced : Announced ep e outcome)
    (moves : Moves ep e e') : Announced ep e' outcome := by
  cases outcome with
  | result result last => exact Heard.later announced moves
  | fail error => exact Heard.later announced moves
  | finish discard => trivial

end Engine

end SpeechClient
