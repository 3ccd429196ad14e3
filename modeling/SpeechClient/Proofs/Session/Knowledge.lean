import SpeechClient.Proofs.Session.Closing
import SpeechClient.Proofs.Session.Handshake

/-!
# What is known of the session

The client takes the server's word for it that there is a session: besides the reply to the request
that creates one, any other reply may carry a status, and results may say that the session is idle.
The client forgets the session when it closes the connection and when it hears that the connection
is lost.  In between it knows of a session only from such a frame, and only then a recognition
starts without asking for one.

- `Inbound.tellsOfSession`: the events that a session is known from.
- `Entry.forgetsSession`: what makes the client forget it.
- `Engine.tells_of_session_of_known`: what is known was told.
-/

namespace SpeechClient

open Wire

namespace Inbound

/-- The event says that there is a session.  A reply that refuses something does not, save that to a
cancel for which there was nothing to cancel. -/
def tellsOfSession : Inbound → Bool
  | response method verdict status _ _ =>
    match Method.ofOctets? method with
    | some .cancelRecognition =>
      (Verdict.ofOctets? verdict = some .success ||
        Verdict.ofOctets? verdict = some .invalidAction) && status.isSome
    | known =>
      Verdict.ofOctets? verdict = some .success &&
        (status.isSome || known = some .createSession || known = some .startRecognition)
  | result idle (.final _ last) => idle || last
  | result idle _ => idle
  | _ => false

end Inbound

namespace Entry

/-- A message came that says there is a session. -/
def tellsOfSession (protocol : ServerProtocol) : Entry → Bool
  | began operation => (operation.brings? protocol).any Inbound.tellsOfSession
  | _ => false

/-- A recognition asked the server to start it at once, without asking for a session. -/
def startsAtOnce : Entry → Bool
  | seen (.recognize _ _) (.sent frame) | seen (.recognize _ _) (.sendFailed frame) =>
    frame.method? = some .startRecognition
  | _ => false

/-- The connection was closed, or it was reported lost. -/
def forgetsSession (autoClose : Bool) : Entry → Bool
  | ended (.lost _) (.accepted true) => true
  | entry => entry.closes autoClose

end Entry

namespace Handle

variable {h : Handle} (unknown : h.state = .none)
include unknown

theorem onSuccess_unknown {method : Option Method} (parameters : Option Parameters)
    (created : method ≠ some .createSession) (started : method ≠ some .startRecognition) :
    (h.onSuccess method none parameters).1.state = .none := by
  unfold onSuccess
  split
  · exact absurd rfl created
  · exact unknown
  · exact absurd rfl started
  · exact unknown

theorem onCancelReply_unknown (verdict : Option Verdict) {status : Option SessionState}
    (failure : RecognitionError)
    (quiet : verdict = some .success ∨ verdict = some .invalidAction → status = none) :
    (h.onCancelReply verdict status failure).1.state = .none := by
  have settled : (settleIdle { h with cancelPending := false }).state = .none := by
    unfold settleIdle
    rw [if_neg (by simp [unknown, SessionState.inRecognition])]
    exact unknown
  unfold onCancelReply
  split
  · exact unknown
  · dsimp only
    split
    · rw [quiet (.inl rfl)]
      exact settled
    · rw [quiet (.inr rfl)]
      exact settled
    · exact unknown

theorem onResult_unknown {idle : Bool} {outcome : Outcome}
    (quiet : (Inbound.result idle outcome).tellsOfSession = false) :
    (h.onResult idle outcome).1.state = .none := by
  cases outcome with
  | canceled =>
    have awake : idle = false := quiet
    simp [onResult, awake, unknown, SessionState.inRecognition]
  | final result last =>
    obtain ⟨awake, goesOn⟩ : idle = false ∧ last = false := by
      simpa [Inbound.tellsOfSession] using quiet
    simp [onResult, awake, goesOn, unknown]
  | interim result =>
    have awake : idle = false := quiet
    simp [onResult, awake, unknown]

/-- An event that does not say that there is a session leaves it unknown. -/
theorem transition_unknown {event : Inbound} (parameters : Option Parameters)
    (quiet : event.tellsOfSession = false) :
    (h.transition event parameters).1.state = .none := by
  cases event with
  | response method verdict status errorCode message =>
    simp only [transition, onResponse]
    simp only [Inbound.tellsOfSession] at quiet
    split
    next canceling =>
      simp only [canceling] at quiet
      refine onCancelReply_unknown unknown _ _ fun confirmed => ?_
      simpa [confirmed] using quiet
    next other =>
      split
      next succeeded =>
        obtain ⟨silent, created, started⟩ : status = none ∧
            Method.ofOctets? method ≠ some .createSession ∧
            Method.ofOctets? method ≠ some .startRecognition := by
          split at quiet
          next canceling => exact absurd canceling other
          · simpa [succeeded, and_assoc] using quiet
        rw [silent]
        exact onSuccess_unknown unknown parameters created started
      · exact unknown
  | result idle outcome => exact onResult_unknown unknown quiet
  | speechStart time =>
    simp only [transition]
    rw [if_neg (by simp [unknown])]
    exact unknown
  | speechStop time => exact unknown

end Handle

namespace Engine

variable {ep : Episode} {e e' : Engine} {log : Chronicle}

/-- Only an event that says so makes a session known. -/
theorem Move.known (move : Move ep e e') (known : e'.handle.state ≠ .none) :
    e.handle.state ≠ .none ∨
      e = ep.start ∧ ∃ event, ep.event? = some event ∧ event.tellsOfSession = true := by
  cases move with
  | stopped =>
    rw [stopStreamer_handle] at known
    exact .inl known
  | forgotten =>
    rw [forget_handle] at known
    exact absurd rfl known
  | @recorded _ outcome =>
    exact .inl (e.handle.commit_state outcome ▸ known)
  | @dispatched link event brought =>
    cases tells : event.tellsOfSession with
    | true => exact .inr ⟨rfl, event, brought, tells⟩
    | false =>
      refine .inl fun unknown => known ?_
      obtain ⟨streamer, handle⟩ := dispatch_handle link event ep.start
      rw [handle]
      exact Handle.transition_unknown unknown _ tells
  | given =>
    rw [giveOutcome_handle] at known
    exact .inl known
  | sessionLost => exact absurd rfl known
  | _ => exact .inl known

/-- The session that is known has been told of. -/
def Informed (protocol : ServerProtocol) (autoClose : Bool) (e : Engine) (log : Chronicle) : Prop :=
  e.handle.state ≠ .none →
    log.Since (Entry.tellsOfSession protocol) (Entry.forgetsSession autoClose)

theorem Move.informed (moves : Moves ep ep.start e) (move : Move ep e e')
    (informed : Informed ep.start.settings.protocol ep.start.settings.autoClose e
      (log ++ ep.upTo e)) :
    Informed ep.start.settings.protocol ep.start.settings.autoClose e' (log ++ ep.upTo e') := by
  intro known
  have told : Chronicle.Since (Entry.tellsOfSession ep.start.settings.protocol)
      (Entry.forgetsSession ep.start.settings.autoClose) (log ++ ep.upTo e) := by
    obtain before | ⟨rfl, event, brought, tells⟩ := move.known known
    · exact informed before
    · obtain ⟨-, read, opening⟩ := Episode.opening_of_event? brought
      rw [Episode.upTo_start, opening, Chronicle.since_concat]
      simp [Entry.tellsOfSession, read, tells]
  obtain ⟨o, observes, rfl, seen⟩ | ⟨sources, seen⟩ := Episode.upTo_of_move moves move
  · rw [seen, ← List.append_assoc, Chronicle.since_concat]
    refine .inr ⟨told, Bool.eq_false_iff.mpr fun forgets => known ?_⟩
    have closes : (Entry.seen ep.operation o).closes e.settings.autoClose = true := by
      rw [moves.same.1]
      exact forgets
    exact congrArg Handle.state (observes.forgotten closes)
  · rw [seen, ← List.append_assoc]
    refine told.append fun entry member => ?_
    obtain ⟨source, -, rfl⟩ := List.mem_map.mp member
    rfl

/-- A recognition only starts at once with a session that is known. -/
theorem Sends.known {taken : Prop} {frame : Frame} (sends : Sends ep e taken frame)
    {source : SourceId} {model : LanguageModel} (asked : ep.operation = .recognize source model)
    (starts : frame.method? = some .startRecognition) : e.handle.state ≠ .none := by
  cases sends with
  | release => simp [Request.releaseSession_method?] at starts
  | cancel => simp [Request.cancelRecognition_method?] at starts
  | timers => simp [Request.startInputTimers_method?] at starts
  | first _ _ requested =>
    intro unknown
    simp only [firstRequest, unknown, Except.ok.injEq] at requested
    subst requested
    simp [Request.createSession_method?] at starts
  | follow brought =>
    obtain ⟨⟨octets, message⟩, -⟩ := Episode.opening_of_event? brought
    rw [asked] at message
    cases message
  | audio streamed =>
    rw [asked] at streamed
    cases streamed

theorem Observes.known {o : Observation} (observes : Observes ep e o)
    (starts : (Entry.seen ep.operation o).startsAtOnce = true) : e.handle.state ≠ .none := by
  cases asked : ep.operation with
  | recognize source model =>
    rw [asked] at starts
    cases observes with
    | sent sends => exact sends.known asked (by simpa [Entry.startsAtOnce] using starts)
    | refused sends => exact sends.known asked (by simpa [Entry.startsAtOnce] using starts)
    | _ => cases starts
  | _ =>
    rw [asked] at starts
    cases starts

/-- A report that the connection is lost leaves no session. -/
theorem step_lost_state (depth : Nat) (outside : Outside) (reason : String) (e : Engine)
    (reached : e.subscribed = true) :
    (e.step depth outside (.lost reason)).2.handle.state = .none := by
  let ep := e.episode depth outside (.lost reason)
  have moves : Moves ep (ep.start.onHandle fun h => { h with state := .none })
      (connectionClosed (notifyAll outside depth) reason ep.start) :=
    connectionClosed_moves (notifyAll_telling outside depth) rfl
  have kept :
      (connectionClosed (notifyAll outside depth) reason ep.start).handle.state = .none := by
    refine moves.keep (P := fun a => a.handle.state = .none) (fun {a b} move unknown => ?_) rfl
    by_contra known
    obtain before | ⟨-, event, brought, -⟩ := move.known known
    · exact before unknown
    · cases brought
  simp only [step, reached, if_true]
  exact kept

/-- An operation that ends with the session forgotten leaves none. -/
theorem step_forgotten (depth : Nat) (outside : Outside) (operation : Operation) (e : Engine)
    {entry : Entry} (member : entry ∈ (e.episode depth outside operation).ending)
    (forgets : entry.forgetsSession e.settings.autoClose = true) :
    (e.step depth outside operation).2.handle.state = .none := by
  unfold Entry.forgetsSession at forgets
  split at forgets
  next reason =>
    obtain ended | ⟨taken, -⟩ := Episode.ended_or_taken_of_mem_ending member
    · obtain ⟨asked, answered⟩ := Entry.ended.inj ended
      have asked : .lost reason = operation := asked
      subst asked
      cases reached : e.subscribed with
      | true => exact step_lost_state depth outside reason e reached
      | false => simp [episode, step, reached] at answered
    · cases taken
  · exact congrArg Handle.state (step_closed depth outside operation e member forgets)

variable {first : Engine}

/-- What is known was told, and recognitions that started at once knew of a session. -/
structure Informing (protocol : ServerProtocol) (autoClose : Bool) (e : Engine) (log : Chronicle) :
    Prop where
  informed : Informed protocol autoClose e log
  atOnce : log.Always fun before entry => entry.startsAtOnce = true →
    before.Since (Entry.tellsOfSession protocol) (Entry.forgetsSession autoClose)

theorem Chronicled.informing (run : Chronicled first e log) (new : first.New) :
    Informing first.settings.protocol first.settings.autoClose e log := by
  refine run.keep (P := Informing first.settings.protocol first.settings.autoClose)
    (Q := fun _ => Informing first.settings.protocol first.settings.autoClose) ?_ ?_ ?_ ?_ ?_
  · exact ⟨fun known => absurd (congrArg Handle.state new.handle) known, Chronicle.always_nil⟩
  · exact fun _ before => ⟨before.informed, before.atOnce⟩
  · rintro ep log ⟨informed, atOnce⟩
    refine ⟨fun known => (informed known).append fun entry member => ?_,
      atOnce.append fun before entry member starts => ?_⟩
    · rw [Episode.began_of_mem_opening member]
      rfl
    · rw [Episode.began_of_mem_opening member] at starts
      cases starts
  · -- A frame is judged by what was known when it was sent, and that is the state before the move.
    rintro ep log a b run - earlier move ⟨informed, atOnce⟩
    rw [← run.same.1] at informed atOnce ⊢
    refine ⟨move.informed earlier informed, ?_⟩
    obtain ⟨o, observes, rfl, seen⟩ | ⟨sources, seen⟩ := Episode.upTo_of_move earlier move
    · rw [seen, ← List.append_assoc, Chronicle.always_concat]
      exact ⟨atOnce, fun starts => informed (observes.known starts)⟩
    · rw [seen, ← List.append_assoc]
      refine atOnce.append fun before entry member starts => ?_
      obtain ⟨source, -, rfl⟩ := List.mem_map.mp member
      simp [Entry.startsAtOnce] at starts
  · rintro e log depth outside operation ep later run - ⟨informed, atOnce⟩
    refine ⟨fun known => (informed known).append fun entry member => ?_,
      atOnce.append fun before entry member starts => ?_⟩
    · refine Bool.eq_false_iff.mpr fun forgets => known ?_
      rw [← run.same.1] at forgets
      exact step_forgotten depth outside operation e member forgets
    · obtain rfl | ⟨rfl, -, -⟩ := Episode.ended_or_taken_of_mem_ending member
      · cases starts
      · cases starts

/-- A session is known only if a message has told of one since the client last closed the connection
or heard of its loss, and the same is so whenever a recognition is started at once. -/
theorem tells_of_session_of_known (new : first.New) (run : Chronicled first e log) :
    (e.handle.state ≠ .none →
      log.Since (Entry.tellsOfSession first.settings.protocol)
        (Entry.forgetsSession first.settings.autoClose)) ∧
    ∀ (before : Chronicle) entry after, log = before ++ entry :: after → entry.startsAtOnce = true →
      before.Since (Entry.tellsOfSession first.settings.protocol)
        (Entry.forgetsSession first.settings.autoClose) :=
  ⟨(run.informing new).informed, (run.informing new).atOnce⟩

def connectedSample : Engine :=
  { sample with isOpen := true, subscribed := true }

theorem connectedSample_new : connectedSample.New := by
  constructor <;> simp [connectedSample, sample]

/-- The session is created for one recognition, and the next one starts at once. -/
theorem tells_of_session_of_next_recognition :
    let outside : Outside := { Link.reliable with }
    let created := Operation.message
      (utf8 "ASR 2.4 RESPONSE\r\nMethod: CREATE_SESSION\r\nResult: SUCCESS\r\n\r\n")
    let result := Operation.message
      (utf8 "ASR 2.4 RECOGNITION_RESULT\r\nResult-Status: NO_MATCH\r\n\r\n")
    let recognize := Operation.recognize 0 (.ofUri "builtin:slm")
    let begun := (connectedSample.step 0 outside recognize).2
    let decided := ((begun.step 0 outside created).2.step 0 outside result).2
    let taken := (decided.step 0 outside .wait).2
    let log := connectedSample.entries 0 outside recognize ++ begun.entries 0 outside created ++
      (begun.step 0 outside created).2.entries 0 outside result ++ decided.entries 0 outside .wait
    taken.handle.state ≠ .none ∧
      (∃ entry ∈ taken.entries 0 outside recognize, entry.startsAtOnce = true) ∧
      log.Since (Entry.tellsOfSession .current) (Entry.forgetsSession false) := by
  intro outside created result recognize begun decided taken log
  have begin : Chronicled connectedSample begun _ := Chronicled.start.step 0 outside recognize
  have run : Chronicled connectedSample taken log :=
    ((begin.step 0 outside created).step 0 outside result).step 0 outside .wait
  have known : taken.handle.state ≠ .none := by decide +kernel
  exact ⟨known, by decide +kernel, (tells_of_session_of_known connectedSample_new run).1 known⟩

/-- The reply to a request that needs no session says that the session is idle, and the recognition
starts without asking for one. -/
theorem known_without_created_session :
    let outside : Outside := { Link.reliable with }
    let idle := Operation.message
      (utf8 ("ASR 2.4 RESPONSE\r\nMethod: START_INPUT_TIMERS\r\nResult: SUCCESS\r\n" ++
        "Session-Status: IDLE\r\n\r\n"))
    let recognize := Operation.recognize 0 (.ofUri "builtin:slm")
    let known := (connectedSample.step 0 outside idle).2
    connectedSample.New ∧ known.handle.state = .idle ∧
      ∃ entry ∈ known.entries 0 outside recognize, entry.startsAtOnce = true := by
  intro outside idle recognize known
  exact ⟨connectedSample_new, by decide +kernel, by decide +kernel⟩

end Engine

end SpeechClient
