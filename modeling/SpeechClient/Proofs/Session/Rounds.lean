import SpeechClient.Proofs.Session.Streams

/-!
# Rounds of a streaming thread

A streaming thread sends what it reads, read by read, until something ends it: the end of the
stream, a read that fails, a frame that is not taken, or whoever stops it.

- `Round`: what a thread finds in one round, and what it makes of it.
- `Round.Paced`: rounds in a row, as a thread goes them.
- `Round.Paced.bodies`, `marks`, `failures`: what is sent in them, and what fails.
-/

namespace SpeechClient

open Wire

/-! ## One round -/

/-- What a streaming thread finds in one of its rounds. -/
structure Round where
  outcome : ReadOutcome
  stopped : Bool
  refuses : Frame → Option RecognitionError

namespace Round

def chunk (r : Round) : Bytes :=
  match r.outcome with
  | .ok (_, bytes) => bytes
  | .error _ => []

def atEnd (r : Round) : Bool :=
  match r.outcome with
  | .ok (status, _) => status = .endOfStream
  | .error _ => false

def frame? (r : Round) : Option Frame :=
  if r.stopped then none
  else
    match r.outcome with
    | .ok (.data, bytes) => if bytes = [] then none else some (Request.sendAudio bytes false)
    | .ok (.endOfStream, bytes) => some (Request.sendAudio bytes true)
    | .error _ => none

def failure? (r : Round) : Option RecognitionError :=
  match r.outcome with
  | .ok _ => r.frame?.bind r.refuses
  | .error error => some error

def sent? (r : Round) : Option Frame :=
  if r.failure?.isSome then none else r.frame?

def ends (r : Round) : Bool :=
  r.stopped || r.failure?.isSome || r.atEnd

variable {r : Round}

theorem frame?_method? {frame : Frame} (framed : r.frame? = some frame) :
    frame.method? = some .sendAudio := by
  have method (bytes : Bytes) (last : Bool) :
      (Request.sendAudio bytes last).method? = some .sendAudio := by
    unfold Request.sendAudio
    rw [Frame.setBody_method?, Frame.setHeader_method?, Frame.setHeader_method?,
      Frame.request_method?]
  unfold frame? at framed
  split at framed
  · cases framed
  split at framed
  · split at framed
    · cases framed
    · exact Option.some.inj framed ▸ method _ _
  · exact Option.some.inj framed ▸ method _ _
  · cases framed

/-- A round with a frame fails if the frame is not taken. -/
theorem failure?_of_frame {frame : Frame} (framed : r.frame? = some frame) :
    r.failure? = r.refuses frame := by
  unfold failure?
  split
  · rw [framed]
    rfl
  next failed =>
    unfold frame? at framed
    rw [failed] at framed
    split at framed
    · cases framed
    · cases framed

theorem going_iff : r.ends = false ↔
    r.stopped = false ∧ r.failure? = none ∧ r.atEnd = false := by
  simp [ends, and_assoc]

/-- What a round sends is what was read in it, with a mark if it is the end. -/
theorem sent?_eq_some {frame : Frame} (sent : r.sent? = some frame) :
    frame = Request.sendAudio r.chunk r.atEnd ∧ (r.atEnd = false → r.chunk ≠ []) := by
  unfold sent? at sent
  split at sent
  · cases sent
  unfold frame? at sent
  split at sent
  · cases sent
  split at sent
  next bytes read =>
    split at sent
    · cases sent
    next some =>
      cases sent
      exact ⟨by simp [chunk, atEnd, read], fun _ => by simpa [chunk, read] using some⟩
  next bytes read =>
    cases sent
    exact ⟨by simp [chunk, atEnd, read], fun going => by simp [atEnd, read] at going⟩
  · cases sent

/-- A round that the thread goes on after has sent all that was read in it. -/
theorem sent?_of_going (going : r.ends = false) :
    (r.sent?.toList.map (·.body)).flatten = r.chunk := by
  obtain ⟨running, fine, further⟩ := going_iff.mp going
  unfold sent?
  rw [fine]
  obtain ⟨outcome, stopped, refuses⟩ := r
  cases outcome with
  | error error => cases fine
  | ok piece =>
    obtain ⟨status, bytes⟩ := piece
    cases status with
    | data =>
      dsimp only at running
      by_cases empty : bytes = []
      · simp [frame?, chunk, empty]
      · simp [frame?, chunk, empty, running, Request.sendAudio, Frame.setBody]
    | endOfStream => simp [atEnd] at further

/-! ## Rounds in a row -/

/-- The thread goes on after each round but the last one. -/
inductive Paced : List Round → Prop where
  | none : Paced []
  | last (r : Round) : Paced [r]
  | cons {r : Round} {rest : List Round} : r.ends = false → Paced rest → Paced (r :: rest)

variable {rounds : List Round}

theorem Paced.going (paced : Paced rounds) : ∀ r ∈ rounds.dropLast, r.ends = false := by
  induction paced with
  | none => simp
  | last r => simp
  | @cons r rest going _ after =>
    cases rest with
    | nil => simp
    | cons next rest =>
      intro other member
      cases List.mem_cons.mp member with
      | inl same => exact same ▸ going
      | inr member => exact after other member

theorem lastPacket_sendAudio (bytes : Bytes) (last : Bool) :
    (Request.sendAudio bytes last).header? Key.lastPacket =
      some (utf8 (if last then "true" else "false")) := by
  have other : Key.lastPacket ≠ Key.contentLength := by decide +kernel
  simp [Request.sendAudio, Frame.setBody, Frame.setHeader, Frame.header?, other]

/-- The frame of a round says of itself whether it is the last one. -/
theorem lastPacket_of_sent? {frame : Frame} (sent : r.sent? = some frame) :
    (frame.header? Key.lastPacket = some (utf8 "true") ↔ r.atEnd = true) ∧
      (frame.header? Key.lastPacket = some (utf8 "false") ↔ r.atEnd = false) := by
  have distinct : utf8 "true" ≠ utf8 "false" := by decide +kernel
  rw [(sent?_eq_some sent).1, lastPacket_sendAudio]
  cases r.atEnd with
  | true => simp [distinct]
  | false => simp [distinct.symm]

theorem filterMap_sent?_cons (r : Round) (rest : List Round) :
    (r :: rest).filterMap sent? = r.sent?.toList ++ rest.filterMap sent? := by
  cases said : r.sent? with
  | none => simp [said]
  | some frame => simp [said]

theorem body_of_sent? {frame : Frame} (sent : r.sent? = some frame) : frame.body = r.chunk :=
  congrArg Frame.body (sent?_eq_some sent).1

/-- What is sent is what is read, and at the end nothing is missing. -/
theorem Paced.bodies (paced : Paced rounds) :
    let frames := rounds.filterMap sent?
    (frames.map (·.body)).flatten <+: (rounds.map chunk).flatten ∧
      ((∃ frame ∈ frames, frame.header? Key.lastPacket = some (utf8 "true")) →
        (frames.map (·.body)).flatten = (rounds.map chunk).flatten) := by
  induction paced with
  | none => simp
  | last r =>
    cases sent : r.sent? with
    | none => simp [sent]
    | some frame => simp [sent, body_of_sent? sent]
  | @cons r rest going _ after =>
    obtain ⟨partly, whole⟩ := after
    have sent := sent?_of_going going
    simp only [filterMap_sent?_cons, List.map_append, List.flatten_append, sent, List.map_cons,
      List.flatten_cons]
    refine ⟨(List.prefix_append_right_inj _).mpr partly, ?_⟩
    rintro ⟨frame, member, marked⟩
    refine congrArg _ (whole ⟨frame, ?_, marked⟩)
    cases List.mem_append.mp member with
    | inl member =>
      have atEnd := (lastPacket_of_sent? (Option.mem_toList.mp member)).1.mp marked
      rw [(going_iff.mp going).2.2] at atEnd
      cases atEnd
    | inr member => exact member

/-- Only the last frame has the mark of the end. -/
theorem Paced.marks (paced : Paced rounds) : ∀ frame ∈ (rounds.filterMap sent?).dropLast,
    frame.header? Key.lastPacket = some (utf8 "false") := by
  induction paced with
  | none => simp
  | last r =>
    cases sent : r.sent? with
    | none => simp [sent]
    | some frame => simp [sent]
  | @cons r rest going _ after =>
    intro frame member
    rw [filterMap_sent?_cons, List.dropLast_append] at member
    have either : frame ∈ r.sent?.toList ∨ frame ∈ (rest.filterMap sent?).dropLast := by
      split at member
      · exact .inl (List.dropLast_subset _ member)
      · exact List.mem_append.mp member
    cases either with
    | inl sent =>
      exact (lastPacket_of_sent? (Option.mem_toList.mp sent)).2.mpr (going_iff.mp going).2.2
    | inr member => exact after frame member

/-- A frame without the mark has audio. -/
theorem audio_of_unmarked {frame : Frame} (sent : frame ∈ rounds.filterMap sent?)
    (unmarked : frame.header? Key.lastPacket = some (utf8 "false")) : frame.body ≠ [] := by
  obtain ⟨r, -, sent⟩ := List.mem_filterMap.mp sent
  rw [body_of_sent? sent]
  exact (sent?_eq_some sent).2 ((lastPacket_of_sent? sent).2.mp unmarked)

/-- At most one round fails. -/
theorem Paced.failures (paced : Paced rounds) : (rounds.filterMap failure?).length ≤ 1 := by
  induction paced with
  | none => simp
  | last r => exact List.length_filterMap_le failure? [r]
  | cons going _ after => rwa [List.filterMap_cons_none (going_iff.mp going).2.1]

end Round

end SpeechClient
