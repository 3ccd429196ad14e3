import SpeechClient.Session.Engine

/-!
# Streaming

A streaming thread reads its source round by round, and sends what each read gave.  It comes to its
end with the end of the stream, with a read that fails and with a frame that is not taken.

- `Engine.turn`: one round.
- `Engine.settle`: all rounds that have something to do.
-/

namespace SpeechClient

open Wire

namespace Engine

/-- The frame for what a read gave, if there is one: nothing new is not sent, but the end is. -/
def packet? (status : ReadStatus) (bytes : Bytes) : Option Frame :=
  match status with
  | .data => if bytes.isEmpty then none else some (Request.sendAudio bytes false)
  | .endOfStream => some (Request.sendAudio bytes true)

def readSource (source : SourceId) (e : Engine) : OwnRead × Engine :=
  match e.sources[source]? with
  | some s =>
    let (r, s) := s.read
    (r, { e with sources := e.sources.set source s })
  | none => ({ outcome := .ok (.data, []) }, e)

def endThread (s : Streamer) (e : Engine) : Engine :=
  { e with threads := e.threads.filter (· ≠ s) }

/-- One round of a streaming thread: a read, and a frame for what it gave.  A thread that was
stopped during the read sends nothing, but a read that failed is told of all the same. -/
def turn (link : Link) (notify : Notify) (s : Streamer) (e : Engine) : Engine :=
  if !e.threads.contains s then e
  else
    let (r, e) := readSource s.source e
    let e := react link notify r.reaction e
    match r.outcome with
    | .error error => fail notify error (e.endThread s)
    | .ok (status, bytes) =>
      if !e.threads.contains s then e
      else
        match packet? status bytes with
        | none => e
        | some frame =>
          match send link frame e with
          | (some error, e) => fail notify error (e.endThread s)
          | (none, e) => if status = .endOfStream then e.endThread s else e

/-- Rounds of a streaming thread, as many as its source has something for.  Rounds after that would
find nothing new. -/
def stream (link : Link) (notify : Notify) (s : Streamer) (e : Engine) : Engine :=
  let rounds := match e.sources[s.source]? with
    | some source => source.readsLeft
    | none => 0
  (List.range rounds).foldl (fun e _ => turn link notify s e) e

/-- All streaming threads run until they have ended or their sources have nothing left.  Reactions
of listeners are nested at most `depth` deep. -/
def settle (depth : Nat) (outside : Outside) (e : Engine) : Engine :=
  e.threads.foldl (fun e s => stream outside.toLink (notifyAll outside depth) s e) e

end Engine

end SpeechClient
