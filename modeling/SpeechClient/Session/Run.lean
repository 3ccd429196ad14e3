import SpeechClient.Session.Streaming

/-!
# Runs of a recognizer

What can happen to a recognizer, one thing after another: nothing happens between two operations, and
a round of a streaming thread is one of them.

- `Operation`: what callers, the application's audio, the server, the connection and the streaming
  threads do.
- `Engine.step`: one operation, with its answer.
- `Engine.run`: operations in a row, each with the way the outside behaves while it lasts.
-/

namespace SpeechClient

inductive Operation where
  | recognize (source : SourceId) (model : LanguageModel)
  | wait
  | cancel
  | startTimers
  | close
  | status
  | write (source : SourceId) (bytes : Bytes)
  /-- The application says that a live source gets no more audio. -/
  | finish (source : SourceId)
  | message (octets : Bytes)
  /-- The connection reports that it is lost. -/
  | lost (reason : String)
  /-- The connection is lost, and nothing reports it. -/
  | vanish
  /-- A streaming thread goes one round, if it has neither ended nor been stopped. -/
  | stream (thread : Streamer)
  deriving DecidableEq, Repr

inductive Answer where
  /-- What an operation gives that also callbacks can ask for. -/
  | reply (reply : Reply)
  | outcome (results : Except RecognitionError (List SegmentResult))
  /-- The audio was taken, or there was someone to bring the news to. -/
  | accepted (yes : Bool)

namespace Engine

def attach (source : AudioSource) (e : Engine) : SourceId × Engine :=
  (e.sources.length, { e with sources := e.sources ++ [source] })

def write (source : SourceId) (bytes : Bytes) (e : Engine) : Bool × Engine :=
  match e.sources[source]? with
  | some s =>
    let (accepted, s) := s.write bytes
    (accepted, { e with sources := e.sources.set source s })
  | none => (false, e)

def finish (source : SourceId) (e : Engine) : Engine :=
  { e with sources := e.sources.modify source AudioSource.finish }

/-- One operation.  News from the connection reaches a recognizer only if it has been connected
before.  Reactions of listeners are nested at most `depth` deep. -/
def step (depth : Nat) (outside : Outside) (operation : Operation) (e : Engine) :
    Answer × Engine :=
  let link := outside.toLink
  let notify := notifyAll outside depth
  match operation with
  | .recognize source model =>
    let (failure, e) := recognize link notify source model e
    (.reply (replyOf failure), e)
  | .wait =>
    let (results, e) := waitResult link e
    (.outcome results, e)
  | .cancel =>
    let (failure, e) := cancel link notify e
    (.reply (replyOf failure), e)
  | .startTimers =>
    let (failure, e) := startTimers link e
    (.reply (replyOf failure), e)
  | .close => (.reply .done, close link e)
  | .status => (.reply (.status e.handle.state e.isOpen), e)
  | .write source bytes =>
    let (accepted, e) := write source bytes e
    (.accepted accepted, e)
  | .finish source => (.reply .done, finish source e)
  | .message octets =>
    if e.subscribed then (.accepted true, receive link notify octets e)
    else (.accepted false, e)
  | .lost reason =>
    if e.subscribed then (.accepted true, connectionClosed notify reason e)
    else (.accepted false, { e with isOpen := false })
  | .vanish => (.reply .done, { e with isOpen := false })
  | .stream thread => (.reply .done, turn link notify thread e)

/-- Operations in a row, each with the way the outside behaves while it lasts, and their answers. -/
def run (depth : Nat) : List (Outside × Operation) → Engine → List Answer × Engine
  | [], e => ([], e)
  | (outside, operation) :: rest, e =>
    let (answer, e) := step depth outside operation e
    let (answers, e) := run depth rest e
    (answer :: answers, e)

end Engine

end SpeechClient
