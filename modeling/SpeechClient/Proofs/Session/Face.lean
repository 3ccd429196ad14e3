import SpeechClient.Session.Run

/-!
# The face of a recognizer

Callers and listeners have to do with the handle, the connection, the settings and what listeners
were told; the sources, the threads and the frames sent are behind that.  `Engine.face` is this
part of the state, and for each part of an operation there is one equation that says what it does
to the face.
-/

namespace SpeechClient

def Observation.heardBy (listener : Nat) : Observation → Option Notification
  | .notified i n => if i = listener then some n else none
  | _ => none

/-- What callers and listeners have to do with. -/
@[ext]
structure Face where
  settings : Settings
  listeners : Nat
  handle : Handle
  isOpen : Bool
  told : Nat → List Notification

namespace Engine

def told (e : Engine) (listener : Nat) : List Notification :=
  e.trace.filterMap (·.heardBy listener)

def face (e : Engine) : Face :=
  { settings := e.settings, listeners := e.listeners, handle := e.handle, isOpen := e.isOpen
    told := e.told }

section Parts

variable (link : Link) (e : Engine)

theorem observe_face {o : Observation} (silent : ∀ i, o.heardBy i = none) :
    (e.observe o).face = e.face := by
  have same : (e.observe o).told = e.told := by
    funext i
    simp [told, observe, silent i]
  simp only [face, same]
  rfl

theorem onHandle_face (f : Handle → Handle) :
    (e.onHandle f).face = { e.face with handle := f e.handle } := rfl

theorem send_face (frame : Wire.Frame) : (send link frame e).2.face = e.face := by
  unfold send
  split
  · exact observe_face e fun _ => rfl
  · exact observe_face e fun _ => rfl

theorem closeSource_face (source : SourceId) : (closeSource source e).face = e.face :=
  observe_face { e with sources := e.sources.modify source AudioSource.close } fun _ => rfl

theorem openConnection_face : (openConnection link e).2.face =
    { e.face with isOpen := (openConnection link e).1.isNone } := by
  unfold openConnection
  split
  next connected =>
    have same : e.face.isOpen = true := connected
    simp only [Option.isNone_none, ← same]
  next closed =>
    have same : e.face.isOpen = false := Bool.eq_false_iff.mpr closed
    have asked : (e.observe (.opened e.endpoint)).face = e.face := observe_face e fun _ => rfl
    dsimp only
    split
    · simp only [asked, Option.isNone_some, ← same]
    · exact congrArg ({ · with isOpen := true }) asked

theorem sendFirst_face : (sendFirst link e).2.face =
    { e.face with isOpen := (openConnection link e).1.isNone } := by
  have opened := openConnection_face link e
  unfold sendFirst
  split
  next failure e' result => simpa only [result] using opened
  next e' result =>
    simp only [result] at opened ⊢
    split
    · exact (send_face link e' _).trans opened
    · exact opened

theorem readSource_face (source : SourceId) : (readSource source e).2.face = e.face := by
  unfold readSource
  split <;> rfl

theorem readSource_threads (source : SourceId) : (readSource source e).2.threads = e.threads := by
  unfold readSource
  split <;> rfl

theorem write_face (source : SourceId) (bytes : Bytes) :
    (write source bytes e).2.face = e.face := by
  unfold write
  split <;> rfl

theorem stop_face (s : Streamer) : (stop s e).face = e.face :=
  closeSource_face { e with threads := e.threads.filter (· ≠ s) } s.source

theorem stopStreamer_face :
    (stopStreamer e).face = { e.face with handle := { e.handle with streamer := none } } := by
  unfold stopStreamer
  split
  next s _ => exact stop_face { e with handle := { e.handle with streamer := none } } s
  next absent =>
    have same : e.handle = { e.handle with streamer := none } := by rw [← absent]
    rw [← same]
    rfl

theorem startStreaming_face (source : SourceId) : (startStreaming source e).face =
    { e.face with handle := { e.handle with streamer := some ⟨e.nextThread, source⟩ } } := by
  simp only [startStreaming]
  split
  · exact stop_face _ _
  · rfl

theorem tryStreaming_face (source : SourceId) : ∃ streamer, (tryStreaming link source e).face =
    { e.face with handle := { e.handle with streamer } } := by
  unfold tryStreaming
  split
  · exact ⟨none, stopStreamer_face e⟩
  · exact ⟨_, startStreaming_face e source⟩

theorem startStreams_face (effects : List Effect) : ∃ streamer,
    (startStreams link effects e).face = { e.face with handle := { e.handle with streamer } } := by
  unfold startStreams
  induction effects generalizing e with
  | nil => exact ⟨e.handle.streamer, rfl⟩
  | cons effect rest after =>
    cases effect with
    | startStreaming source =>
      obtain ⟨streamer, later⟩ := after (tryStreaming link source e)
      obtain ⟨_, started⟩ := tryStreaming_face link e source
      have handle := congrArg Face.handle started
      change (tryStreaming link source e).handle = _ at handle
      rw [started, handle] at later
      exact ⟨streamer, later⟩
    | send frame => exact after e
    | notify n => exact after e
    | commit outcome => exact after e

theorem markCanceled_face :
    (markCanceled e).face = { e.face with handle := (markCanceled e).handle } := by
  unfold markCanceled
  split
  · rfl
  · split <;> rfl

/-- A cancel fails where the server cannot be asked for it.  Without a connection nobody is. -/
theorem cancel_eq (notify : Notify) :
    ∃ asked : Engine, asked.face = (stopStreamer (markCanceled e)).face ∧
      cancel link notify e =
        match if e.isOpen then
          (send link Request.cancelRecognition (stopStreamer (markCanceled e))).1 else none with
        | some error => (some error, fail notify error asked)
        | none => (none, autoClose link asked) := by
  unfold cancel
  dsimp only
  cases e.isOpen with
  | true =>
    have sent := send_face link (stopStreamer (markCanceled e)) Request.cancelRecognition
    exact ⟨_, sent, rfl⟩
  | false => exact ⟨_, rfl, rfl⟩

theorem close_face : (close link e).face = { e.face with handle := {}, isOpen := false } := by
  unfold close
  extract_lets hasSession stopped released shut source forgotten
  have stoppedFace : stopped.face =
      { e.face with handle := { e.handle with streamer := none } } := stopStreamer_face e
  -- The session is released with a frame like any other, and closed whether that is sent or not.
  have releasedFace : released.face = stopped.face := by
    unfold released
    split
    · exact send_face link stopped Request.releaseSession
    · rfl
  have shutFace : shut.face = { stopped.face with isOpen := false } := by
    unfold shut
    split
    · exact (observe_face _ fun _ => rfl).trans
        (congrArg ({ · with isOpen := false }) releasedFace)
    next closed =>
      have same : stopped.face.isOpen = false := Bool.eq_false_iff.mpr closed
      rw [← same]
  have forgottenFace : forgotten.face = { e.face with handle := {}, isOpen := false } := by
    have handle : shut.face.handle = { e.handle with streamer := none } := by
      rw [shutFace, stoppedFace]
    change shut.handle = _ at handle
    rw [onHandle_face, shutFace, stoppedFace, handle]
    rfl
  cases source with
  | none => exact forgottenFace
  | some i => exact (closeSource_face forgotten i).trans forgottenFace

end Parts

end Engine

end SpeechClient
