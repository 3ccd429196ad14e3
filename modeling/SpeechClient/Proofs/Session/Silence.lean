import SpeechClient.Proofs.Session.Threads

/-!
# Silence after a cancel

A cancel that succeeds stops the streaming thread, and so does a wait that gives an outcome.  From
then on nothing is sent for the recognition, unless a reply of the server is still on its way: then
the handshake goes on as if nothing had happened.

- `Entry.silences`, `Entry.resumes`: what stops the requests of a recognition, and what has them go
  on.
- `Frame.speaks`: a recognition is started, or audio is sent.
- `Engine.silent_of_canceled`: nothing is sent in between.
-/

namespace SpeechClient

open Wire

def Wire.Frame.speaks (frame : Frame) : Bool :=
  frame.method? = some .startRecognition || frame.method? = some .sendAudio

namespace Entry

/-- A cancel succeeded, or a wait gave an outcome.  A cancel from inside a callback does not count
if the message that is being handled has a request to be sent yet. -/
def silences (protocol : ServerProtocol) : Entry → Bool
  | ended .cancel (.reply .done) | taken => true
  | seen during (.acted .cancel .done) => !(during.brings? protocol).any Inbound.asksOn
  | _ => false

theorem silences_seen {protocol : ServerProtocol} {during : Operation} {o : Observation} :
    (seen during o).silences protocol = true ↔
      o = .acted .cancel .done ∧ (during.brings? protocol).any Inbound.asksOn = false := by
  cases o with
  | acted action reply => cases action <;> cases reply <;> simp [silences]
  | _ => simp [silences]

theorem silences_ended_cancel {protocol : ServerProtocol} {answer : Answer} :
    (ended .cancel answer).silences protocol = true ↔ answer = .reply .done := by
  cases answer with
  | reply reply => cases reply <;> simp [silences]
  | _ => simp [silences]

/-- A reply comes that the handshake goes on with, or a recognition is accepted. -/
def resumes (protocol : ServerProtocol) : Entry → Bool
  | began operation => (operation.brings? protocol).any Inbound.goesOn
  | entry => entry.accepts

def speaks : Entry → Bool
  | seen _ (.sent frame) => frame.speaks
  | _ => false

end Entry

namespace Engine

variable {ep : Episode} {e e' : Engine} {log : Chronicle} {protocol : ServerProtocol}

theorem Observes.silenced {o : Observation} (observes : Observes ep e o) {during : Operation}
    (silences : (Entry.seen during o).silences protocol = true) : e.handle.streamer = none := by
  obtain ⟨rfl, -⟩ := Entry.silences_seen.mp silences
  cases observes with
  | acted completed => exact completed.1

/-- A frame of a recognition goes out in an operation of three kinds. -/
theorem Sends.spoken {frame : Frame} (sends : Sends ep e True frame)
    (speaks : frame.speaks = true) :
    ((∃ source model, ep.operation = .recognize source model) ∧ ep.answer = .reply .done) ∨
      (∃ event, ep.event? = some event ∧ event.asksOn = true) ∨
      ∃ s, ep.operation = .stream s ∧ s ∈ e.threads := by
  cases sends with
  | release => simp [Frame.speaks, Request.releaseSession_method?] at speaks
  | cancel => simp [Frame.speaks, Request.cancelRecognition_method?] at speaks
  | timers => simp [Frame.speaks, Request.startInputTimers_method?] at speaks
  | first asked accepted => exact .inl ⟨⟨_, _, asked⟩, accepted trivial⟩
  | follow brought asked =>
    cases Handle.transition_brings asked with
    | parameters p granted =>
      exact .inr (.inl ⟨_, brought, by simp [Inbound.asksOn, granted]⟩)
    | start asksOn => exact .inr (.inl ⟨_, brought, asksOn⟩)
  | audio streamed running => exact .inr (.inr ⟨_, streamed, running⟩)

section Episodes

variable (known : ep.start.settings.protocol = protocol)
include known

theorem not_silent_of_goesOn {event : Inbound} (brought : ep.event? = some event)
    (goesOn : event.goesOn = true) :
    ¬Chronicle.Since (Entry.silences protocol) (Entry.resumes protocol) (log ++ ep.opening) := by
  obtain ⟨-, read, opening⟩ := Episode.opening_of_event? brought
  rw [known] at read
  rw [opening, Chronicle.since_concat]
  simp [Entry.silences, Entry.resumes, read, goesOn]

/-- While a reply is handled that a request follows, there is no silence. -/
theorem not_silent_of_asksOn {event : Inbound} (brought : ep.event? = some event)
    (asksOn : event.asksOn = true) :
    ¬Chronicle.Since (Entry.silences protocol) (Entry.resumes protocol) (log ++ ep.upTo e) := by
  intro silent
  obtain ⟨-, read, -⟩ := Episode.opening_of_event? brought
  rw [known] at read
  have noisy : ∀ entry ∈ (e.seenSince ep.start).map (Entry.seen ep.operation),
      entry.silences protocol = false := by
    intro entry member
    obtain ⟨o, -, rfl⟩ := List.mem_map.mp member
    refine Bool.eq_false_iff.mpr fun silences => ?_
    have done := (Entry.silences_seen.mp silences).2
    simp [read, asksOn] at done
  rw [Episode.upTo, ← List.append_assoc] at silent
  exact not_silent_of_goesOn known brought (by simp [Inbound.goesOn, asksOn])
    (silent.of_append noisy).1

/-- While there is silence, no thread runs. -/
theorem Move.still (moves : Moves ep ep.start e) (move : Move ep e e') (held : e.Held)
    (still : Chronicle.Since (Entry.silences protocol) (Entry.resumes protocol)
      (log ++ ep.upTo e) → e.threads = [])
    (silent : Chronicle.Since (Entry.silences protocol) (Entry.resumes protocol)
      (log ++ ep.upTo e')) : e'.threads = [] := by
  obtain ⟨o, observes, rfl, seen⟩ | ⟨sources, seen⟩ := Episode.upTo_of_move moves move
  · rw [seen, ← List.append_assoc, Chronicle.since_concat] at silent
    cases silent with
    | inl silences => exact held.threads_eq_nil (observes.silenced silences)
    | inr silent => exact still silent.1
  · rw [seen, ← List.append_assoc] at silent
    have silent := (silent.of_append (by simp [Entry.silences])).1
    obtain fewer | ⟨rfl, event, brought, starts⟩ := move.threads
    · rw [still silent] at fewer
      exact List.subset_nil.mp fewer
    · rw [Episode.upTo_start] at silent
      exact absurd silent (not_silent_of_goesOn known brought (by simp [Inbound.goesOn, starts]))

end Episodes

/-- While there is silence, no thread runs, and nothing goes out but the first frame of another
recognition. -/
structure Quiet (protocol : ServerProtocol) (e : Engine) (log : Chronicle) : Prop where
  still : log.Since (Entry.silences protocol) (Entry.resumes protocol) → e.threads = []
  spoken : log.Always fun before entry => entry.speaks = true →
    before.Since (Entry.silences protocol) (Entry.resumes protocol) →
    ∃ source model frame, entry = .seen (.recognize source model) (.sent frame)

theorem Quiet.opening (quiet : Quiet protocol ep.start log) :
    Quiet protocol ep.start (log ++ ep.opening) := by
  refine ⟨fun silent => quiet.still ?_, quiet.spoken.append fun before entry member speaks => ?_⟩
  · refine (silent.of_append fun entry member => ?_).1
    rw [Episode.began_of_mem_opening member]
    rfl
  · rw [Episode.began_of_mem_opening member] at speaks
    cases speaks

theorem Quiet.move (known : ep.start.settings.protocol = protocol) (moves : Moves ep ep.start e)
    (move : Move ep e e') (held : e.Held) (quiet : Quiet protocol e (log ++ ep.upTo e)) :
    Quiet protocol e' (log ++ ep.upTo e') := by
  refine ⟨move.still known moves held quiet.still, ?_⟩
  obtain ⟨o, observes, rfl, seen⟩ | ⟨sources, seen⟩ := Episode.upTo_of_move moves move
  · rw [seen, ← List.append_assoc, Chronicle.always_concat]
    refine ⟨quiet.spoken, fun speaks silent => ?_⟩
    cases observes with
    | @sent frame sends =>
      obtain ⟨⟨source, model, asked⟩, -⟩ | ⟨event, brought, asksOn⟩ | ⟨s, -, running⟩ :=
        sends.spoken speaks
      · exact ⟨source, model, frame, by rw [asked]⟩
      · exact absurd silent (not_silent_of_asksOn known brought asksOn)
      · rw [quiet.still silent] at running
        cases running
    | _ => cases speaks
  · rw [seen, ← List.append_assoc]
    refine quiet.spoken.append fun before entry member speaks => ?_
    obtain ⟨source, -, rfl⟩ := List.mem_map.mp member
    cases speaks

/-- A cancel that succeeds and a wait that gives an outcome leave no thread. -/
theorem step_silences (depth : Nat) (outside : Outside) (operation : Operation) (e : Engine)
    {entry : Entry} (member : entry ∈ (e.episode depth outside operation).ending)
    (silences : entry.silences protocol = true) :
    (e.step depth outside operation).2.handle.streamer = none := by
  obtain rfl | ⟨-, waited, decided⟩ := Episode.ended_or_taken_of_mem_ending member
  · cases operation with
    | cancel => exact (step_cancel_completes (Entry.silences_ended_cancel.mp silences)).1
    | _ => cases silences
  · have waited : operation = .wait := waited
    subst waited
    have face := waitResult_face outside.toLink e decided
    have handle : (e.step depth outside .wait).2.handle = _ := congrArg Face.handle face
    rw [handle]
    split <;> rfl

variable {first : Engine}

theorem Chronicled.quiet (run : Chronicled first e log) (reached : first.Reachable) :
    Quiet first.settings.protocol e log := by
  refine run.keep (P := Quiet first.settings.protocol)
    (Q := fun _ => Quiet first.settings.protocol) ?_ ?_ ?_ ?_ ?_
  · exact ⟨fun silent => absurd silent Chronicle.not_since_nil, Chronicle.always_nil⟩
  · exact fun source quiet => ⟨quiet.still, quiet.spoken⟩
  · exact fun quiet => quiet.opening
  · intro ep log a b run _ earlier move quiet
    have known : ep.start.settings.protocol = first.settings.protocol := by rw [run.same.1]
    have held : a.Held :=
      earlier.keep (fun move held => move.held held) (run.reachable reached).held
    exact quiet.move known earlier move held
  · intro e log depth outside operation ep later run _ quiet
    have held : later.Held := ((run.reachable reached).step depth outside operation).held
    refine ⟨fun silent => ?_, quiet.spoken.append fun before entry member speaks => ?_⟩
    · by_cases silenced : ∃ entry ∈ ep.ending, entry.silences first.settings.protocol = true
      · obtain ⟨entry, member, silences⟩ := silenced
        exact held.threads_eq_nil (step_silences depth outside operation e member silences)
      · refine quiet.still (silent.of_append fun entry member => ?_).1
        exact Bool.eq_false_iff.mpr fun silences => silenced ⟨entry, member, silences⟩
    · obtain rfl | ⟨rfl, -, -⟩ := Episode.ended_or_taken_of_mem_ending member
      · cases speaks
      · cases speaks

/-- A recognition whose first frame has gone out is accepted. -/
theorem Moves.answered (moves : Moves ep ep.start e) {source : SourceId} {model : LanguageModel}
    (asked : ep.operation = .recognize source model) {frame : Frame}
    (sent : .sent frame ∈ e.seenSince ep.start) (speaks : frame.speaks = true) :
    ep.answer = .reply .done := by
  revert sent
  refine moves.keepOn (P := fun a => .sent frame ∈ a.seenSince ep.start →
    ep.answer = .reply .done) ?_ (by simp [seenSince])
  intro a b earlier move before sent
  obtain ⟨o, observes, rfl⟩ | ⟨sources, seen⟩ := move.seen
  · rw [seenSince_observe earlier.grows] at sent
    cases List.mem_append.mp sent with
    | inl sent => exact before sent
    | inr sent =>
      rw [← List.mem_singleton.mp sent] at observes
      cases observes with
      | sent sends =>
        obtain ⟨-, done⟩ | ⟨event, brought, -⟩ | ⟨s, streamed, -⟩ := sends.spoken speaks
        · exact done
        · obtain ⟨⟨octets, message⟩, -⟩ := Episode.opening_of_event? brought
          rw [asked] at message
          cases message
        · rw [asked] at streamed
          cases streamed
  · rw [seenSince_append earlier.grows seen] at sent
    cases List.mem_append.mp sent with
    | inl sent => exact before sent
    | inr sent => simp at sent

theorem Chronicled.answered (run : Chronicled first e log) {before after : Chronicle}
    {source : SourceId} {model : LanguageModel} {frame : Frame} (speaks : frame.speaks = true)
    (split : log = before ++ .seen (.recognize source model) (.sent frame) :: after) :
    ∃ later ∈ after, later.accepts = true := by
  induction run generalizing after with
  | start => simp at split
  | attach source _ before => exact before split
  | @step e log depth outside operation run known =>
    -- The frame went out in an operation before, on the way of this one, or (it cannot) at its end.
    obtain ⟨rest, same, rfl⟩ | ⟨earlier, -, inside⟩ := Chronicle.split_append split
    · obtain ⟨later, member, accepts⟩ := known same
      exact ⟨later, List.mem_append_left _ member, accepts⟩
    · let ep := e.episode depth outside operation
      obtain ⟨rest, onTheWay, rfl⟩ | ⟨_, -, atTheEnd⟩ := Chronicle.split_append inside
      · have member : .seen (.recognize source model) (.sent frame) ∈
            ep.upTo (e.step depth outside operation).2 := by
          rw [onTheWay]
          exact List.mem_append_right _ (List.mem_cons_self ..)
        obtain began | ⟨o, sent, seen⟩ := Episode.began_or_seen_of_mem_upTo member
        · cases began
        · obtain ⟨asked, rfl⟩ := Entry.seen.inj seen
          have done := (episode_moves depth outside operation e).answered asked.symm sent speaks
          refine ⟨.ended ep.operation ep.answer,
            List.mem_append_right _ (Episode.ended_mem_ending ep), ?_⟩
          rw [done, ← asked]
          rfl
      · have member : .seen (.recognize source model) (.sent frame) ∈ ep.ending := by
          rw [atTheEnd]
          exact List.mem_append_right _ (List.mem_cons_self ..)
        obtain ended | ⟨taken, -⟩ := Episode.ended_or_taken_of_mem_ending member
        · cases ended
        · cases taken

/-- After a cancel that succeeded, or a wait that gave an outcome, no recognition is started and no
audio is sent until a reply comes that the handshake goes on with, or another recognition is
accepted. -/
theorem silent_of_canceled (reached : first.Reachable) {before after : Chronicle} {entry : Entry}
    (run : Chronicled first e (before ++ entry :: after))
    (silences : entry.silences first.settings.protocol = true)
    (quiet : ∀ later ∈ after, later.resumes first.settings.protocol = false) :
    ∀ during frame, .seen during (.sent frame) ∈ after →
      frame.method? ≠ some .startRecognition ∧ frame.method? ≠ some .sendAudio := by
  intro during frame member
  suffices silent : frame.speaks = false by simpa [Frame.speaks] using silent
  refine Bool.eq_false_iff.mpr fun speaks => ?_
  obtain ⟨earlier, rest, rfl⟩ := List.append_of_mem member
  have silent : Chronicle.Since (Entry.silences first.settings.protocol)
      (Entry.resumes first.settings.protocol) (before ++ entry :: earlier) :=
    ⟨before, entry, earlier, rfl, silences, fun later member => quiet later (by simp [member])⟩
  obtain ⟨source, model, other, same⟩ := (run.quiet reached).spoken (before ++ entry :: earlier)
    (.seen during (.sent frame)) rest (by simp) speaks silent
  obtain ⟨rfl, -⟩ := Entry.seen.inj same
  -- The frame belongs to a recognition that is accepted, and nothing does that here.
  have split :
      before ++ entry :: (earlier ++ .seen (.recognize source model) (.sent frame) :: rest) =
        (before ++ entry :: earlier) ++ .seen (.recognize source model) (.sent frame) :: rest := by
    simp
  obtain ⟨later, member, accepts⟩ := run.answered speaks split
  have refused := quiet later (by simp [member])
  cases later with
  | ended operation answer =>
    have resumes : (Entry.ended operation answer).resumes first.settings.protocol = true := accepts
    rw [resumes] at refused
    cases refused
  | _ => cases accepts

/-- A recognition is canceled while its audio is streamed, and its thread would have had more. -/
theorem silent_of_canceled_streaming :
    let outside : Outside := { Link.reliable with }
    let audio : OwnRead := { outcome := .ok (.data, [1, 2]) }
    let message := Operation.message
      (utf8 "ASR 2.4 RESPONSE\r\nMethod: START_RECOGNITION\r\nResult: SUCCESS\r\n\r\n")
    let known := (sample.attach (.own { reads := [audio, audio] })).2
    let begun := (known.step 0 outside (.recognize 0 (.ofUri "builtin:slm"))).2
    let streaming := (begun.step 0 outside message).2
    let sending := (streaming.step 0 outside (.stream ⟨0, 0⟩)).2
    let canceled := (sending.step 0 outside .cancel).2
    sending.trace = streaming.trace ++ [.sent (Request.sendAudio [1, 2] false)] ∧
      ∀ during frame,
        .seen during (.sent frame) ∈ canceled.entries 0 outside (.stream ⟨0, 0⟩) →
        frame.method? ≠ some .startRecognition ∧ frame.method? ≠ some .sendAudio := by
  intro outside audio message known begun streaming sending canceled
  have canceling : sending.entries 0 outside .cancel =
      [.began .cancel, .seen .cancel (.audioClosed 0),
        .seen .cancel (.sent Request.cancelRecognition)] ++ [.ended .cancel (.reply .done)] := by
    decide +kernel
  have started : Chronicled sample streaming _ :=
    ((Chronicled.start.attach _).step 0 outside _).step 0 outside message
  have run := ((started.step 0 outside (.stream ⟨0, 0⟩)).step 0 outside .cancel).step 0 outside
    (.stream ⟨0, 0⟩)
  rw [canceling, ← List.append_assoc, List.append_assoc _ [_] _] at run
  exact ⟨by decide +kernel, silent_of_canceled (.new sample_new) run rfl (by decide +kernel)⟩

/-- A recognition is canceled while its session is created, and the reply to that has the server
start it all the same. -/
theorem spoken_after_cancel :
    let outside : Outside := { Link.reliable with }
    let message := Operation.message
      (utf8 "ASR 2.4 RESPONSE\r\nMethod: CREATE_SESSION\r\nResult: SUCCESS\r\n\r\n")
    let begun := (sample.step 0 outside (.recognize 0 (.ofUri "builtin:slm"))).2
    let canceled := begun.step 0 outside .cancel
    begun.handle.recognizing = true ∧ canceled.1 = .reply .done ∧
      ∃ entry ∈ canceled.2.entries 0 outside message, entry.speaks = true := by
  decide +kernel

end Engine

end SpeechClient
