import SpeechClient.Address.Url
import SpeechClient.Audio.Source
import SpeechClient.Session.Transition
import SpeechClient.Wire.Parse

/-!
# The recognizer at work

All that a recognizer does, as functions on one state: what callers ask of it, and what the server
and the connection do to it.  Each takes the state to the next, and everything that can be seen from
outside is added to the trace of the state: frames sent, the connection opened and closed, sources
closed, listeners told.

How the outside behaves is given as an `Outside`: by its `Link`, whether a connection is made and a
frame is taken; by its reactions, what listeners do to the recognizer from inside a callback.

- `Engine.recognize`, `waitResult`, `cancel`, `startTimers`, `close`: what callers ask.
- `Engine.receive`, `connectionClosed`: what the connection brings.
- `Engine.notifyAll`: how listeners are told, and what they do then.
-/

namespace SpeechClient

open Wire

structure Endpoint where
  url : Url
  authorization : Option String
  connectTimeout : Duration
  deriving DecidableEq, Repr

/-- What keeps a connection from being made or a frame from being taken.  It is none of the answers
that only the recognizer itself gives. -/
structure Refusal where
  error : RecognitionError
  external : error.external = true

def Refusal.ofReason (reason : String) : Refusal := ⟨.connectionFailure reason, rfl⟩

/-- How the connection answers, where a frame is sent on one that is open or not; and how the system
answers that is to run a streaming thread. -/
structure Link where
  refuseOpen : Endpoint → Option Refusal
  refuseSend : (isOpen : Bool) → Frame → Option Refusal
  refuseThread : Option String := none

def Link.threadFailure (link : Link) : Option RecognitionError :=
  link.refuseThread.map fun reason => .audio ("cannot spawn streaming thread: " ++ reason)

/-- How the outside behaves: the connection, and the listeners by their numbers. -/
structure Outside extends Link where
  reaction : (listener : Nat) → Notification → Reaction := fun _ _ => .done

/-- What can be seen from outside. -/
inductive Observation where
  | opened (endpoint : Endpoint)
  | sent (frame : Frame)
  | sendFailed (frame : Frame)
  | closed
  | audioClosed (source : SourceId)
  | threadRefused (source : SourceId)
  | notified (listener : Nat) (notification : Notification)
  /-- An action from inside a callback came to its end. -/
  | acted (action : Action) (reply : Reply)
  | recognized (source : SourceId) (failure : Option RecognitionError)
  | waited (outcome : Except RecognitionError (List SegmentResult))

structure Engine where
  settings : Settings
  endpoint : Endpoint
  listeners : Nat
  handle : Handle := {}
  isOpen : Bool := false
  /-- The connection knows whom to bring its messages to. -/
  subscribed : Bool := false
  sources : List AudioSource := []
  /-- The streaming threads that have neither ended nor been stopped. -/
  threads : List Streamer := []
  nextThread : Nat := 0
  trace : List Observation := []

/-- How listeners are told: the state after all of them have been. -/
abbrev Notify := Notification → Engine → Engine

namespace Engine

def observe (o : Observation) (e : Engine) : Engine :=
  { e with trace := e.trace ++ [o] }

def onHandle (f : Handle → Handle) (e : Engine) : Engine :=
  { e with handle := f e.handle }

/-! ## Connection and sources -/

def send (link : Link) (frame : Frame) (e : Engine) : Option RecognitionError × Engine :=
  match link.refuseSend e.isOpen frame with
  | some refusal => (some refusal.error, e.observe (.sendFailed frame))
  | none => (none, e.observe (.sent frame))

def openConnection (link : Link) (e : Engine) : Option RecognitionError × Engine :=
  if e.isOpen then (none, e)
  else
    let e := e.observe (.opened e.endpoint)
    match link.refuseOpen e.endpoint with
    | some refusal => (some refusal.error, e)
    | none => (none, { e with isOpen := true, subscribed := true })

def closeSource (source : SourceId) (e : Engine) : Engine :=
  { e with sources := e.sources.modify source AudioSource.close }.observe (.audioClosed source)

def stop (s : Streamer) (e : Engine) : Engine :=
  { e with threads := e.threads.filter (· ≠ s) }.closeSource s.source

/-- The streaming thread of the handle is taken out of it and stopped, if there is one. -/
def stopStreamer (e : Engine) : Engine :=
  match e.handle.streamer with
  | some s => ({ e with handle := { e.handle with streamer := none } }).stop s
  | none => e

/-- A streaming thread is started on a source; the one before is stopped only after that. -/
def startStreaming (source : SourceId) (e : Engine) : Engine :=
  let s : Streamer := ⟨e.nextThread, source⟩
  -- The old thread may have the same source; closing that comes after the new thread has begun.
  let stale := e.handle.streamer
  let e := { e with
    handle := { e.handle with streamer := some s }
    threads := e.threads ++ [s]
    nextThread := e.nextThread + 1 }
  match stale with
  | some old => e.stop old
  | none => e

/-- A streaming thread is to be started.  Where none can be, the one before is stopped all the
same. -/
def tryStreaming (link : Link) (source : SourceId) (e : Engine) : Engine :=
  match link.threadFailure with
  | some _ => e.stopStreamer
  | none => e.startStreaming source

/-- The session is released and the connection closed; all is as it was at first. -/
def close (link : Link) (e : Engine) : Engine :=
  -- The status is read before anything is stopped: it decides if there is a session to release.
  let hasSession := e.handle.state ≠ .none
  let e := e.stopStreamer
  let e :=
    if e.isOpen then
      let e := if hasSession then (send link Request.releaseSession e).2 else e
      { e with isOpen := false }.observe .closed
    else e
  -- A source can be closed twice here: once with its thread, and once as that of the recognition.
  let source := e.handle.audioSource
  let e := e.onHandle Handle.reset
  match source with
  | some i => e.closeSource i
  | none => e

/-- After an outcome the connection is closed where the settings say so. -/
def autoClose (link : Link) (e : Engine) : Engine :=
  if e.settings.autoClose then close link e else e

/-! ## Outcomes -/

def fail (notify : Notify) (error : RecognitionError) (e : Engine) : Engine :=
  (notify (.error error) e).onHandle (·.commit (.fail error))

/-- An effect is carried out; outcomes are put aside. -/
def perform (link : Link) (notify : Notify) (state : List Commit × Engine) (effect : Effect) :
    List Commit × Engine :=
  let (commits, e) := state
  match effect with
  | .send frame =>
    match send link frame e with
    | (some error, e) => (commits ++ [.fail error], notify (.error error) e)
    | (none, e) => (commits, e)
  | .notify n => (commits, notify n e)
  | .commit (.fail error) => (commits ++ [.fail error], notify (.error error) e)
  | .commit c => (commits ++ [c], e)
  | .startStreaming source =>
    match link.threadFailure with
    | some error =>
      (commits ++ [.fail error], notify (.error error) (e.observe (.threadRefused source)))
    | none => (commits, e)

def startStreams (link : Link) (effects : List Effect) (e : Engine) : Engine :=
  effects.foldl (fun e effect =>
    match effect with
    | .startStreaming source => tryStreaming link source e
    | _ => e) e

/-- An event runs through the session: the status changes, the effects are carried out, and at last
the outcomes are recorded. -/
def process (link : Link) (notify : Notify) (event : Inbound) (e : Engine) : Engine :=
  -- Listeners may change the handle between the transition and the commits.
  let (handle, effects) := e.handle.transition event e.settings.parameters
  let e := startStreams link effects { e with handle }
  let (commits, e) := effects.foldl (perform link notify) ([], e)
  -- Nobody waits while an event runs through, so nobody has to be woken.
  e.onHandle fun h => (h.record commits).2

/-! ## What the connection brings -/

/-- A message arrives.  What is no frame, or means nothing, is dropped. -/
def receive (link : Link) (notify : Notify) (message : Bytes) (e : Engine) : Engine :=
  match Frame.parse message with
  | .error _ => e
  | .ok frame =>
    match Inbound.classify e.settings.protocol frame with
    | some (.ok event) => process link notify event e
    | _ => e

def connectionClosed (notify : Notify) (reason : String) (e : Engine) : Engine :=
  -- The connection still counts as open while the listeners hear of its loss.
  let running := e.handle.recognizing
  let e := (e.onHandle fun h => { h with state := .none }).stopStreamer
  let e := if running then fail notify (.connectionFailure reason) e else e
  { e with isOpen := false }

/-! ## What callers ask -/

def firstRequest (e : Engine) : Except RecognitionError Frame :=
  match e.handle.state with
  | .none => .ok (Request.createSession e.settings.userAgent)
  | _ => Request.startRecognition e.handle.languageModel

def sendFirst (link : Link) (e : Engine) : Option RecognitionError × Engine :=
  match openConnection link e with
  | (some error, e) => (some error, e)
  | (none, e) =>
    match firstRequest e with
    | .ok frame => send link frame e
    | .error error => (some error, e)

/-- A recognition begins.  It is refused while the outcome of the one before has not been taken. -/
def recognize (link : Link) (notify : Notify) (source : SourceId) (model : LanguageModel)
    (e : Engine) : Option RecognitionError × Engine :=
  if !model.usable then (some .invalidLanguageModel, e)
  else if e.handle.active then (some .activeRecognition, e)
  else
    match sendFirst link (e.onHandle (·.begin source model)) with
    | (none, e) => (none, e)
    | (some error, e) =>
      (some error,
        -- Listeners hear of the failure while the recognition still counts as begun.
        (notify (.error error) e).onHandle fun h => { h.finishRecognition with active := false })

/-- The outcome of the recognition is taken, if it has one.  On an open connection a recognition
without one is waited for in vain. -/
def waitResult (link : Link) (e : Engine) :
    Except RecognitionError (List SegmentResult) × Engine :=
  if e.isOpen && e.handle.stillWaiting then (.error (.timeout e.settings.maxWait), e)
  else
    let h := e.handle
    -- The outcome is taken before the thread is stopped and the connection closed.
    let e := e.onHandle Handle.takeOutcome
    let e := match h.streamer with
      | some s => e.stop s
      | none => e
    let e := autoClose link e
    match h.error with
    | some error => (.error error, e)
    | none => (.ok h.results, e)

/-- The running recognition is marked as canceled, or ended at once where no server is left to
confirm it. -/
def markCanceled (e : Engine) : Engine :=
  if !e.handle.recognizing then e
  else if e.isOpen then e.onHandle fun h => { h with cancelPending := true }
  else e.onHandle (·.commit (.finish true))

/-- The running recognition is canceled.  Streaming stops at once. -/
def cancel (link : Link) (notify : Notify) (e : Engine) : Option RecognitionError × Engine :=
  let wasOpen := e.isOpen
  let e := e.markCanceled.stopStreamer
  let (failure, e) := if wasOpen then send link Request.cancelRecognition e else (none, e)
  match failure with
  | some error => (some error, fail notify error e)
  | none => (none, autoClose link e)

def startTimers (link : Link) (e : Engine) : Option RecognitionError × Engine :=
  send link Request.startInputTimers e

/-! ## Callbacks -/

def replyOf : Option RecognitionError → Reply
  | some error => .failed error
  | none => .done

def act (link : Link) (notify : Notify) (action : Action) (e : Engine) : Reply × Engine :=
  let (reply, e) := match action with
    | .close => (Reply.done, close link e)
    | .cancel =>
      let (failure, e) := cancel link notify e
      (replyOf failure, e)
    | .startTimers =>
      let (failure, e) := startTimers link e
      (replyOf failure, e)
    | .status => (.status e.handle.state e.isOpen, e)
  (reply, e.observe (.acted action reply))

def react (link : Link) (notify : Notify) : Reaction → Engine → Engine
  | .done, e => e
  | .act action next, e =>
    let (reply, e) := act link notify action e
    react link notify (next reply) e

/-- The listeners are told, one after another; each may react, and what its actions bring about is
told to all listeners before the next one hears of the first matter.  Reactions are nested at most
`depth` deep: listeners that are told something deeper down only take note of it. -/
def notifyAll (outside : Outside) : (depth : Nat) → Notify
  | 0, n, e => (List.range e.listeners).foldl (fun e i => e.observe (.notified i n)) e
  | depth + 1, n, e =>
    (List.range e.listeners).foldl (fun e i =>
      react outside.toLink (notifyAll outside depth) (outside.reaction i n)
        (e.observe (.notified i n))) e

/-! ## The first state -/

/-- A recognizer for so many listeners, connected unless the settings put that off, and what could
be seen meanwhile.  Nobody can use it before it is made, so listeners do not react. -/
def create (link : Link) (settings : Settings) (listeners : Nat) :
    Except RecognitionError Engine × List Observation :=
  match Url.ofServer settings.url with
  | .error error => (.error error.toRecognitionError, [])
  | .ok url =>
    let e : Engine :=
      { settings, listeners
        endpoint :=
          { url
            authorization := settings.credentials.map (·.authorization)
            connectTimeout := settings.connectTimeout } }
    if settings.connectOnRecognize then (.ok e, [])
    else
      match openConnection link e with
      | (none, e) => (.ok e, e.trace)
      | (some error, e) => (.error error, (notifyAll { link with } 0 (.error error) e).trace)

end Engine

end SpeechClient
