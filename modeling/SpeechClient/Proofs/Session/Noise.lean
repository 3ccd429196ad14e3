import SpeechClient.Proofs.Session.CancelReply
import SpeechClient.Proofs.Session.Guard
import SpeechClient.Proofs.Session.Likeness

/-!
# Noise

What the server sends can be of no use: octets that are no frame, frames that mean nothing, results
that cannot be read, replies that nobody waits for.  All of it is dropped before anything is
touched, and so it makes no difference to a run where such messages come in between.  Neither do
waits that run into their limit.

- `Line`, `Script`: a run that something was inserted into.
- `Engine.Noise`: what is dropped.
- `Engine.run_of_noisy`: the run with noise is the run without it.
-/

namespace SpeechClient

open Wire

/-- An operation of a script, which was there from the beginning or was inserted. -/
structure Line where
  inserted : Bool
  outside : Outside
  operation : Operation

abbrev Script := List Line

namespace Script

def all (script : Script) : List (Outside × Operation) :=
  script.map fun line => (line.outside, line.operation)

theorem all_cons (line : Line) (rest : Script) :
    all (line :: rest) = (line.outside, line.operation) :: all rest := rfl

def original (script : Script) : List (Outside × Operation) :=
  all (script.filter fun line => !line.inserted)

end Script

namespace Engine

/-- Nothing comes of the operation: a message that is dropped, or a wait in vain.  A recognition can
also have failed with a limit that the application's own source ran into; a wait that gives such a
failure takes an outcome like any other. -/
inductive Noise (outside : Outside) (e : Engine) : Operation → Prop where
  | malformed {octets : Bytes} {fault : FrameError} : Frame.parse octets = .error fault →
      Noise outside e (.message octets)
  | unclaimed {octets : Bytes} {frame : Frame} : Frame.parse octets = .ok frame →
      Inbound.classify e.settings.protocol frame = none → Noise outside e (.message octets)
  /-- The result needs its body, and that is no JSON; whatever else it says does not count. -/
  | unreadable {octets : Bytes} {frame : Frame} : Frame.parse octets = .ok frame →
      frame.method? = some .recognitionResult →
      (Inbound.headerValue frame Key.resultStatus).text ≠ ResultCode.canceled.name →
      frame.body ≠ [] → Json.parse frame.body = none → Noise outside e (.message octets)
  | uncanceled {octets : Bytes} {frame : Frame} : Frame.parse octets = .ok frame →
      frame.method? = some .response →
      Method.ofOctets? (Inbound.headerValue frame Key.method) = some .cancelRecognition →
      e.handle.cancelPending = false → Noise outside e (.message octets)
  | vainWait {limit : Duration} : (waitResult outside.toLink e).1 = .error (.timeout limit) →
      e.handle.error = none → Noise outside e .wait

/-- What was inserted is noise where it comes. -/
def Noisy (depth : Nat) : Script → Engine → Prop
  | [], _ => True
  | line :: rest, e => (line.inserted = true → Noise line.outside e line.operation) ∧
      Noisy depth rest (step depth line.outside line.operation e).2

variable {e : Engine} {outside : Outside}

theorem step_of_unread {octets : Bytes}
    (unread : Inbound.ofMessage? e.settings.protocol octets = none) (depth : Nat) :
    (e.step depth outside (.message octets)).2 = e := by
  simp only [step, receive_eq, unread]
  split
  · rfl
  · rfl

theorem ofMessage?_of_unclaimed {protocol : ServerProtocol} {octets : Bytes} {frame : Frame}
    (parsed : Frame.parse octets = .ok frame)
    (unclaimed : Inbound.classify protocol frame = none) :
    Inbound.ofMessage? protocol octets = none := by
  simp only [Inbound.ofMessage?, parsed, unclaimed]

/-- The body is read before the event is made up, so its fault hides what the headers say. -/
theorem ofMessage?_of_unreadable {octets : Bytes} {frame : Frame}
    (parsed : Frame.parse octets = .ok frame)
    (result : frame.method? = some .recognitionResult)
    (uncanceled : (Inbound.headerValue frame Key.resultStatus).text ≠ ResultCode.canceled.name)
    (body : frame.body ≠ []) (invalid : Json.parse frame.body = none)
    (protocol : ServerProtocol) : Inbound.ofMessage? protocol octets = none := by
  have faulty : Inbound.outcomeOf protocol frame =
      .error (.invalidBody "not a JSON text") := by
    simp only [Inbound.outcomeOf, beq_iff_eq, uncanceled, if_false, List.isEmpty_iff, body, invalid]
  simp only [Inbound.ofMessage?, parsed, Inbound.classify, result, Inbound.ofResult, faulty]
  rfl

/-- A wait gives that a limit was reached because its own was, or because such a failure had been
recorded. -/
theorem waitResult_eq_timeout_iff (link : Link) (e : Engine) (limit : Duration) :
    (waitResult link e).1 = .error (.timeout limit) ↔
      ((e.isOpen && e.handle.stillWaiting) = true ∧ limit = e.settings.maxWait) ∨
        ((e.isOpen && e.handle.stillWaiting) = false ∧
          e.handle.error = some (.timeout limit)) := by
  cases waiting : e.isOpen && e.handle.stillWaiting with
  | true =>
    rw [waitResult_of_waiting link waiting]
    simp [eq_comm]
  | false =>
    rw [waitResult_fst link waiting]
    cases e.handle.error with
    | none => simp
    | some error => simp

theorem waiting_of_vain {link : Link} {limit : Duration}
    (vain : (waitResult link e).1 = .error (.timeout limit)) (unfailed : e.handle.error = none) :
    (e.isOpen && e.handle.stillWaiting) = true := by
  obtain ⟨waiting, -⟩ | ⟨-, recorded⟩ := (waitResult_eq_timeout_iff link e limit).mp vain
  · exact waiting
  · rw [unfailed] at recorded
    cases recorded

/-- Noise changes nothing, and nothing is seen of it. -/
theorem Noise.step_eq {operation : Operation} (noise : Noise outside e operation) (depth : Nat) :
    (e.step depth outside operation).2 = e := by
  cases noise with
  | malformed fault =>
    exact step_of_unread (by simp only [Inbound.ofMessage?, fault]) depth
  | unclaimed parsed unclaimed =>
    exact step_of_unread (ofMessage?_of_unclaimed parsed unclaimed) depth
  | unreadable parsed result uncanceled body invalid =>
    exact step_of_unread (ofMessage?_of_unreadable parsed result uncanceled body invalid _) depth
  | uncanceled parsed response reply idle =>
    rw [step_of_uncanceled parsed response reply idle]
  | vainWait vain unfailed =>
    have waiting := waiting_of_vain vain unfailed
    simp only [step, waitResult_of_waiting outside.toLink waiting]

/-- A run with noise in it comes to the same state as the run without, with all that was seen and
told on the way, and it gives the same answers to all that was not inserted. -/
theorem run_of_noisy {depth : Nat} {script : Script} {e : Engine} (noisy : Noisy depth script e) :
    (run depth script.all e).2 = (run depth script.original e).2 ∧
      answersTo (fun line => !line.inserted) script (run depth script.all e).1 =
        (run depth script.original e).1 := by
  -- On the script, from any state: what was inserted first leaves the state as it is.
  induction script generalizing e with
  | nil => exact ⟨rfl, rfl⟩
  | cons line rest after =>
    obtain ⟨noise, later⟩ := noisy
    obtain ⟨same, answers⟩ := after later
    cases inserted : line.inserted with
    | true =>
      have unchanged := (noise inserted).step_eq depth
      have original : Script.original (line :: rest) = Script.original rest := by
        simp [Script.original, inserted]
      rw [unchanged] at same answers
      rw [original]
      simp only [Script.all_cons, run, unchanged, answersTo_cons, inserted]
      exact ⟨same, answers⟩
    | false =>
      have original : Script.original (line :: rest) =
          (line.outside, line.operation) :: Script.original rest := by
        simp [Script.original, Script.all_cons, inserted]
      rw [original]
      simp only [Script.all_cons, run, answersTo_cons, inserted, Bool.not_false, if_true]
      exact ⟨same, congrArg _ answers⟩

/-- While a result is waited for, the server sends what is no frame, a result that cannot be read
and a reply to a cancel that nobody asked for. -/
theorem run_of_noisy_while_waiting :
    let outside : Outside := { Link.reliable with }
    let result := utf8 ("ASR 2.4 RECOGNITION_RESULT\r\nSession-Status: IDLE\r\n" ++
      "Result-Status: RECOGNIZED\r\nContent-Length: 1\r\n\r\n[")
    let reply := utf8 "ASR 2.4 RESPONSE\r\nMethod: CANCEL_RECOGNITION\r\nResult: SUCCESS\r\n\r\n"
    let script : Script :=
      [⟨false, outside, .recognize 0 (.ofUri "builtin:slm")⟩, ⟨true, outside, .wait⟩,
        ⟨true, outside, .message (utf8 "noise")⟩, ⟨true, outside, .message result⟩,
        ⟨true, outside, .message reply⟩, ⟨false, outside, .cancel⟩]
    Noisy 0 script sample ∧
      (run 0 script.all sample).2 = (run 0 script.original sample).2 := by
  intro outside result reply script
  let resultFrame : Frame :=
    (((Frame.new protocolVersion (utf8 "RECOGNITION_RESULT")).setHeader Key.sessionStatus
      (utf8 "IDLE")).setHeader Key.resultStatus (utf8 "RECOGNIZED")).setBody (utf8 "[")
  let replyFrame : Frame :=
    ((Frame.new protocolVersion (utf8 "RESPONSE")).setHeader Key.method
      (utf8 "CANCEL_RECOGNITION")).setHeader Key.result (utf8 "SUCCESS")
  have resultParsed : Frame.parse result = .ok resultFrame := by decide +kernel
  have replyParsed : Frame.parse reply = .ok replyFrame := by decide +kernel
  have noisy : Noisy 0 script sample := by
    refine ⟨nofun, fun _ => ?_, fun _ => ?_, fun _ => ?_, fun _ => ?_, nofun, trivial⟩
    · have vain : (waitResult outside.toLink (sample.step 0 outside
          (.recognize 0 (.ofUri "builtin:slm"))).2).1 =
          .error (.timeout sample.settings.maxWait) := by decide +kernel
      exact .vainWait vain (by decide +kernel)
    · have fault : Frame.parse (utf8 "noise") = .error .missingStatusLine := by decide +kernel
      exact .malformed fault
    · exact .unreadable resultParsed (by decide +kernel) (by decide +kernel) (by decide +kernel)
        (Option.isNone_iff_eq_none.mp (by decide +kernel))
    · exact .uncanceled replyParsed (by decide +kernel) (by decide +kernel) (by decide +kernel)
  exact ⟨noisy, (run_of_noisy noisy).1⟩

end Engine

end SpeechClient
