import SpeechClient.Proofs.Session.Rows

/-!
# Recognizers alike

Two recognizers can differ in what none of their work looks at: in what was seen of them so far, in
some of their settings, in whether they have been connected before.  Side by side they then do the
same, step by step.  Their callbacks can differ as well, as long as what these do comes to the same.

- `Guise`: how one recognizer differs from another.
- `Alike`: it differs in nothing else.
- `Tells`, `Responsive`: what is asked of the callbacks.
- `Alike.step`: what most operations do to recognizers that are alike; for the others the parts
  `Alike.cancel`, `Alike.waitResult` and `Alike.close`.
-/

namespace SpeechClient

open Wire

def Observation.acted? : Observation → Option (Action × Reply)
  | .acted action reply => some (action, reply)
  | _ => none

/-- What the connection brings. -/
def Operation.isNews : Operation → Bool
  | .message _ | .lost _ => true
  | _ => false

/-! ## Callbacks in other words -/

section Reactions

variable (f : Reaction → Reaction)

def OwnRead.mapReaction (r : OwnRead) : OwnRead :=
  { r with reaction := f r.reaction }

def Outside.mapReactions (o : Outside) : Outside :=
  { o with reaction := fun i n => f (o.reaction i n) }

namespace AudioSource

def mapReactions : AudioSource → AudioSource
  | .own s => .own { s with reads := s.reads.map (·.mapReaction f) }
  | .file s => .file s
  | .buffer s => .buffer s

theorem mapReactions_id (s : AudioSource) : s.mapReactions id = s := by
  cases s with
  | own s =>
    have reads : s.reads.map (·.mapReaction id) = s.reads := List.map_id'' (fun _ => rfl) s.reads
    simp only [mapReactions, reads]
  | _ => rfl

theorem close_mapReactions (s : AudioSource) :
    (s.mapReactions f).close = s.close.mapReactions f := by
  cases s with
  | _ => rfl

theorem finish_mapReactions (s : AudioSource) :
    (s.mapReactions f).finish = s.finish.mapReactions f := by
  cases s with
  | _ => rfl

theorem write_mapReactions (s : AudioSource) (bytes : Bytes) :
    (s.mapReactions f).write bytes = ((s.write bytes).1, (s.write bytes).2.mapReactions f) := by
  cases s with
  | _ => rfl

theorem read_mapReactions (done : f .done = .done) (s : AudioSource) :
    (s.mapReactions f).read = (s.read.1.mapReaction f, s.read.2.mapReactions f) := by
  cases s with
  | buffer s => simp [read, mapReactions, OwnRead.mapReaction, done]
  | file s => simp [read, mapReactions, OwnRead.mapReaction, done]
  | own s =>
    obtain ⟨reads, closed⟩ := s
    cases closed with
    | true => simp [read, mapReactions, OwnRead.mapReaction, done]
    | false =>
      cases reads with
      | nil => simp [read, mapReactions, OwnRead.mapReaction, done]
      | cons r rest => simp [read, mapReactions]

end AudioSource

end Reactions

theorem map_modify {α β : Type} {f : α → β} {change : α → α} {change' : β → β}
    (same : ∀ a, change' (f a) = f (change a)) (list : List α) (i : Nat) :
    (list.map f).modify i change' = (list.modify i change).map f := by
  refine List.ext_getElem? fun j => ?_
  simp only [List.getElem?_modify, List.getElem?_map]
  cases list[j]? with
  | none => rfl
  | some a =>
    by_cases here : i = j
    · simp [here, same]
    · simp [here]

/-- How one recognizer differs from another: in settings that its work does not look at, in having
been connected before, in what its sources do when they are read, and in what was seen so far. -/
structure Guise where
  own : Settings
  other : Settings
  userAgent : other.userAgent = own.userAgent
  maxWait : other.maxWait = own.maxWait
  protocol : other.protocol = own.protocol
  parameters : other.parameters = own.parameters
  known : Bool
  reaction : Reaction → Reaction
  reaction_done : reaction .done = .done
  traces : List Observation → List Observation → Prop
  /-- What is seen of both changes nothing. -/
  concat : ∀ {own other o}, o.acted? = none → traces own other →
    traces (own ++ [o]) (other ++ [o])

namespace Guise

variable (g : Guise)

/-- The other recognizer, of which this trace was seen. -/
def image (trace : List Observation) (e : Engine) : Engine :=
  { e with
    settings := g.other
    subscribed := g.known || e.subscribed
    sources := e.sources.map (AudioSource.mapReactions g.reaction)
    trace }

end Guise

namespace Engine

/-- The connection is closed if it is open; before that the session may be released. -/
def hangUp (link : Link) (release : Prop) [Decidable release] (e : Engine) : Engine :=
  if e.isOpen then
    { if release then (send link Request.releaseSession e).2 else e with
      isOpen := false }.observe .closed
  else e

theorem close_eq (link : Link) (e : Engine) :
    close link e = (e.stopStreamer.hangUp link (e.handle.state ≠ .none)).forget := rfl

theorem waitResult_of_decided (link : Link) {e : Engine}
    (decided : (e.isOpen && e.handle.stillWaiting) = false) :
    waitResult link e = (match e.handle.error with
      | some error => .error error
      | none => .ok e.handle.results, autoClose link e.giveOutcome) := by
  rw [giveOutcome_eq]
  unfold waitResult
  simp only [decided, Bool.false_eq_true, if_false]
  cases e.handle.error with
  | some error => rfl
  | none => rfl

/-- One recognizer differs from another in nothing but the guise. -/
inductive Alike (g : Guise) (e : Engine) : Engine → Prop where
  | intro (trace : List Observation) : e.settings = g.own → g.traces e.trace trace →
      Alike g e (g.image trace e)

/-- Two recognizers come to the same result, and are alike after that. -/
inductive Agree {α : Type} (g : Guise) : α × Engine → α × Engine → Prop where
  | intro (a : α) {e e' : Engine} : Alike g e e' → Agree g (a, e) (a, e')

namespace Agree

variable {α β : Type} {g : Guise} {result other : α × Engine}

theorem fst (agree : Agree g result other) : other.1 = result.1 := by
  obtain ⟨_, _⟩ := agree
  rfl

theorem snd (agree : Agree g result other) : Alike g result.2 other.2 := by
  obtain ⟨_, alike⟩ := agree
  exact alike

theorem map (f : α → β) (agree : Agree g result other) :
    Agree g (f result.1, result.2) (f other.1, other.2) := by
  obtain ⟨_, alike⟩ := agree
  exact .intro _ alike

end Agree

/-- Telling something to the listeners of both keeps recognizers alike. -/
def Tells (g : Guise) (notify notify' : Notify) : Prop :=
  ∀ n {e e'}, Alike g e e' → Alike g (notify n e) (notify' n e')

def Reacts (g : Guise) (link : Link) (notify notify' : Notify) : Prop :=
  ∀ r {e e'}, Alike g e e' → Alike g (react link notify r e) (react link notify' (g.reaction r) e')

def Responsive (g : Guise) (link : Link) : Prop :=
  ∀ {notify notify'}, Tells g notify notify' → Reacts g link notify notify'

namespace Alike

variable {g : Guise} {e e' : Engine}

theorem settings (alike : Alike g e e') : e.settings = g.own ∧ e'.settings = g.other := by
  obtain ⟨_, own, _⟩ := alike
  exact ⟨own, rfl⟩

theorem handle (alike : Alike g e e') : e'.handle = e.handle := by
  obtain ⟨_, _, _⟩ := alike
  rfl

theorem protocol (alike : Alike g e e') : e'.settings.protocol = e.settings.protocol := by
  obtain ⟨own, other⟩ := alike.settings
  rw [own, other, g.protocol]

theorem parameters (alike : Alike g e e') : e'.settings.parameters = e.settings.parameters := by
  obtain ⟨own, other⟩ := alike.settings
  rw [own, other, g.parameters]

theorem maxWait (alike : Alike g e e') : e'.settings.maxWait = e.settings.maxWait := by
  obtain ⟨own, other⟩ := alike.settings
  rw [own, other, g.maxWait]

theorem firstRequest (alike : Alike g e e') : e'.firstRequest = e.firstRequest := by
  obtain ⟨own, other⟩ := alike.settings
  unfold Engine.firstRequest
  rw [alike.handle, own, other, g.userAgent]

theorem isOpen (alike : Alike g e e') : e'.isOpen = e.isOpen := by
  obtain ⟨_, _, _⟩ := alike
  rfl

theorem endpoint (alike : Alike g e e') : e'.endpoint = e.endpoint := by
  obtain ⟨_, _, _⟩ := alike
  rfl

theorem threads (alike : Alike g e e') : e'.threads = e.threads := by
  obtain ⟨_, _, _⟩ := alike
  rfl

theorem subscribed (alike : Alike g e e') : e'.subscribed = (g.known || e.subscribed) := by
  obtain ⟨_, _, _⟩ := alike
  rfl

theorem listeners (alike : Alike g e e') : e'.listeners = e.listeners := by
  obtain ⟨_, _, _⟩ := alike
  rfl

theorem traces (alike : Alike g e e') : g.traces e.trace e'.trace := by
  obtain ⟨_, _, traces⟩ := alike
  exact traces

/-- What keeps recognizers alike one by one keeps them alike in a row. -/
theorem foldl {α : Type} {f f' : Engine → α → Engine}
    (one : ∀ a {e e'}, Alike g e e' → Alike g (f e a) (f' e' a)) (list : List α)
    (alike : Alike g e e') : Alike g (list.foldl f e) (list.foldl f' e') := by
  induction list generalizing e e' with
  | nil => exact alike
  | cons a rest after => exact after (one a alike)

/-! ## Parts -/

theorem record (alike : Alike g e e') {o o' : Observation}
    (traces : g.traces (e.trace ++ [o]) (e'.trace ++ [o'])) :
    Alike g (e.observe o) (e'.observe o') := by
  obtain ⟨trace, own, -⟩ := alike
  have image : (g.image trace e).observe o' = g.image (trace ++ [o']) (e.observe o) := rfl
  rw [image]
  exact ⟨trace ++ [o'], own, traces⟩

theorem observe (alike : Alike g e e') {o : Observation} (plain : o.acted? = none) :
    Alike g (e.observe o) (e'.observe o) :=
  alike.record (g.concat plain alike.traces)

theorem onHandle (alike : Alike g e e') (f : Handle → Handle) :
    Alike g (e.onHandle f) (e'.onHandle f) := by
  obtain ⟨trace, own, traces⟩ := alike
  exact ⟨trace, own, traces⟩

theorem disconnect (alike : Alike g e e') :
    Alike g { e with isOpen := false } { e' with isOpen := false } := by
  obtain ⟨trace, own, traces⟩ := alike
  exact ⟨trace, own, traces⟩

theorem connect (alike : Alike g e e') :
    Alike g { e with isOpen := true, subscribed := true }
      { e' with isOpen := true, subscribed := true } := by
  obtain ⟨trace, own, traces⟩ := alike
  have image : { g.image trace e with isOpen := true, subscribed := true } =
      g.image trace { e with isOpen := true, subscribed := true } := by
    simp [Guise.image]
  rw [image]
  exact ⟨trace, own, traces⟩

theorem endThread (alike : Alike g e e') (s : Streamer) :
    Alike g (e.endThread s) (e'.endThread s) := by
  obtain ⟨trace, own, traces⟩ := alike
  exact ⟨trace, own, traces⟩

theorem sources (alike : Alike g e e') (source : SourceId) : e'.sources[source]? =
    e.sources[source]?.map (AudioSource.mapReactions g.reaction) := by
  obtain ⟨_, _, _⟩ := alike
  exact List.getElem?_map

/-- What is done to the sources does not depend on what their reads do. -/
theorem onSources (alike : Alike g e e') (f f' : List AudioSource → List AudioSource)
    (same : ∀ sources, f' (sources.map (AudioSource.mapReactions g.reaction)) =
      (f sources).map (AudioSource.mapReactions g.reaction)) :
    Alike g { e with sources := f e.sources } { e' with sources := f' e'.sources } := by
  obtain ⟨trace, own, traces⟩ := alike
  have image : { g.image trace e with
        sources := f' (e.sources.map (AudioSource.mapReactions g.reaction)) } =
      g.image trace { e with sources := f e.sources } := by
    rw [same]
    rfl
  -- The other one is an image by definition only; the fields have to be spelled out first.
  change Alike g _ { g.image trace e with
    sources := f' (e.sources.map (AudioSource.mapReactions g.reaction)) }
  rw [image]
  exact ⟨trace, own, traces⟩

theorem closeSource (alike : Alike g e e') (source : SourceId) :
    Alike g (e.closeSource source) (e'.closeSource source) := by
  have closed := alike.onSources (·.modify source AudioSource.close)
    (·.modify source AudioSource.close)
    fun sources => map_modify (AudioSource.close_mapReactions g.reaction) sources source
  exact closed.observe rfl

theorem finish (alike : Alike g e e') (source : SourceId) :
    Alike g (e.finish source) (e'.finish source) :=
  alike.onSources (·.modify source AudioSource.finish) (·.modify source AudioSource.finish)
    fun sources => map_modify (AudioSource.finish_mapReactions g.reaction) sources source

theorem setSource (alike : Alike g e e') (source : SourceId) (s : AudioSource) :
    Alike g { e with sources := e.sources.set source s }
      { e' with sources := e'.sources.set source (s.mapReactions g.reaction) } :=
  alike.onSources (·.set source s) (·.set source (s.mapReactions g.reaction))
    fun _ => List.map_set.symm

theorem write (alike : Alike g e e') (source : SourceId) (bytes : Bytes) :
    Agree g (e.write source bytes) (e'.write source bytes) := by
  unfold Engine.write
  rw [alike.sources]
  cases e.sources[source]? with
  | none => exact .intro _ alike
  | some s =>
    simp only [Option.map_some, AudioSource.write_mapReactions]
    exact .intro _ (alike.setSource source _)

theorem readSource (alike : Alike g e e') (source : SourceId) :
    (e'.readSource source).1 = (e.readSource source).1.mapReaction g.reaction ∧
      Alike g (e.readSource source).2 (e'.readSource source).2 := by
  unfold Engine.readSource
  rw [alike.sources]
  cases e.sources[source]? with
  | none => exact ⟨by simp [OwnRead.mapReaction, g.reaction_done], alike⟩
  | some s =>
    simp only [Option.map_some, AudioSource.read_mapReactions g.reaction g.reaction_done]
    exact ⟨trivial, alike.setSource source _⟩

theorem stop (alike : Alike g e e') (s : Streamer) : Alike g (e.stop s) (e'.stop s) :=
  (alike.endThread s).closeSource s.source

theorem stopStreamer (alike : Alike g e e') : Alike g e.stopStreamer e'.stopStreamer := by
  have taken := alike.onHandle fun h => { h with streamer := none }
  have same := congrArg Handle.streamer alike.handle
  cases running : e.handle.streamer with
  | none =>
    simp only [Engine.stopStreamer, same, running]
    exact alike
  | some s =>
    simp only [Engine.stopStreamer, same, running]
    exact taken.stop s

theorem send (alike : Alike g e e') (link : Link) (frame : Frame) :
    Agree g (Engine.send link frame e) (Engine.send link frame e') := by
  unfold Engine.send
  rw [alike.isOpen]
  cases link.refuseSend e.isOpen frame with
  | some reason => exact .intro _ (alike.observe rfl)
  | none => exact .intro _ (alike.observe rfl)

theorem openConnection (alike : Alike g e e') (link : Link) :
    Agree g (Engine.openConnection link e) (Engine.openConnection link e') := by
  have asked : Alike g (e.observe (.opened e.endpoint)) (e'.observe (.opened e'.endpoint)) := by
    rw [alike.endpoint]
    exact alike.observe rfl
  cases connected : e.isOpen with
  | true =>
    simp only [Engine.openConnection, alike.isOpen, connected, if_true]
    exact .intro _ alike
  | false =>
    have same : link.refuseOpen (e'.observe (.opened e'.endpoint)).endpoint =
        link.refuseOpen (e.observe (.opened e.endpoint)).endpoint := congrArg _ alike.endpoint
    cases refused : link.refuseOpen (e.observe (.opened e.endpoint)).endpoint with
    | some reason =>
      simp only [Engine.openConnection, alike.isOpen, connected, same, refused]
      exact .intro _ asked
    | none =>
      simp only [Engine.openConnection, alike.isOpen, connected, same, refused]
      exact .intro _ asked.connect

theorem startStreaming (alike : Alike g e e') (source : SourceId) :
    Alike g (e.startStreaming source) (e'.startStreaming source) := by
  have started : Alike g
      { e with
        handle := { e.handle with streamer := some ⟨e.nextThread, source⟩ }
        threads := e.threads ++ [⟨e.nextThread, source⟩]
        nextThread := e.nextThread + 1 }
      { e' with
        handle := { e'.handle with streamer := some ⟨e'.nextThread, source⟩ }
        threads := e'.threads ++ [⟨e'.nextThread, source⟩]
        nextThread := e'.nextThread + 1 } := by
    obtain ⟨trace, own, traces⟩ := alike
    exact ⟨trace, own, traces⟩
  have same := congrArg Handle.streamer alike.handle
  cases stale : e.handle.streamer with
  | none =>
    simp only [Engine.startStreaming, same, stale]
    exact started
  | some old =>
    simp only [Engine.startStreaming, same, stale]
    exact started.stop old

theorem tryStreaming (alike : Alike g e e') (link : Link) (source : SourceId) :
    Alike g (e.tryStreaming link source) (e'.tryStreaming link source) := by
  unfold Engine.tryStreaming
  split
  · exact alike.stopStreamer
  · exact alike.startStreaming source

theorem startStreams (alike : Alike g e e') (link : Link) (effects : List Effect) :
    Alike g (Engine.startStreams link effects e) (Engine.startStreams link effects e') := by
  unfold Engine.startStreams
  refine foldl (fun effect _ _ alike => ?_) effects alike
  cases effect with
  | startStreaming source => exact alike.tryStreaming link source
  | _ => exact alike

theorem dispatch (alike : Alike g e e') (link : Link) (event : Inbound) :
    Alike g (e.dispatch link event) (e'.dispatch link event) := by
  unfold Engine.dispatch
  rw [alike.handle, alike.parameters]
  exact (alike.onHandle _).startStreams link _

theorem hangUp (alike : Alike g e e') (link : Link) (release : Prop) [Decidable release] :
    Alike g (e.hangUp link release) (e'.hangUp link release) := by
  have released : Alike g (if release then (Engine.send link Request.releaseSession e).2 else e)
      (if release then (Engine.send link Request.releaseSession e').2 else e') := by
    split
    · exact (alike.send link Request.releaseSession).snd
    · exact alike
  unfold Engine.hangUp
  rw [alike.isOpen]
  split
  · exact released.disconnect.observe rfl
  · exact alike

theorem forget (alike : Alike g e e') : Alike g e.forget e'.forget := by
  have forgotten := alike.onHandle Handle.reset
  unfold Engine.forget
  rw [alike.handle]
  split
  next source _ => exact forgotten.closeSource source
  · exact forgotten

theorem close (alike : Alike g e e') (link : Link) :
    Alike g (Engine.close link e) (Engine.close link e') := by
  rw [close_eq, close_eq, alike.handle]
  exact (alike.stopStreamer.hangUp link _).forget

theorem giveOutcome (alike : Alike g e e') : Alike g e.giveOutcome e'.giveOutcome :=
  alike.stopStreamer.onHandle Handle.takeOutcome

theorem markCanceled (alike : Alike g e e') : Alike g e.markCanceled e'.markCanceled := by
  unfold Engine.markCanceled
  rw [alike.handle, alike.isOpen]
  split
  · exact alike
  · split
    · exact alike.onHandle _
    · exact alike.onHandle _

theorem sendFirst (alike : Alike g e e') (link : Link) :
    Agree g (Engine.sendFirst link e) (Engine.sendFirst link e') := by
  have opened := alike.openConnection link
  unfold Engine.sendFirst
  generalize Engine.openConnection link e = result at opened
  generalize Engine.openConnection link e' = result' at opened
  obtain ⟨failure, alike⟩ := opened
  cases failure with
  | some error => exact .intro _ alike
  | none =>
    dsimp only
    rw [alike.firstRequest]
    split
    next frame _ => exact alike.send link frame
    next error _ => exact .intro _ alike

/-- What a callback is given is the same for both, if it can be seen of both that it was. -/
theorem act (alike : Alike g e e') (link : Link) (notify notify' : Notify) {action : Action}
    (unclosing : action ≠ .cancel)
    (records : ∀ {reply a a'}, Alike g a a' →
      Alike g (a.observe (.acted action reply)) (a'.observe (.acted action reply))) :
    Agree g (Engine.act link notify action e) (Engine.act link notify' action e') := by
  cases action with
  | close => exact .intro _ (records (alike.close link))
  | cancel => exact absurd rfl unclosing
  | startTimers =>
    have sent := alike.send link Request.startInputTimers
    unfold Engine.act Engine.startTimers
    generalize Engine.send link _ e = result at sent
    generalize Engine.send link _ e' = result' at sent
    obtain ⟨failure, alike⟩ := sent
    exact .intro _ (records alike)
  | status =>
    simp only [Engine.act, alike.handle, alike.isOpen]
    exact .intro _ (records alike)

/-! ## What is told -/

section Telling

variable {notify notify' : Notify} (tells : Tells g notify notify')
include tells

theorem fail (alike : Alike g e e') (error : RecognitionError) :
    Alike g (Engine.fail notify error e) (Engine.fail notify' error e') :=
  (tells (.error error) alike).onHandle _

section Parts

variable (link : Link)

theorem perform {state state' : List Commit × Engine} (agree : Agree g state state')
    (effect : Effect) : Agree g (Engine.perform link notify state effect)
      (Engine.perform link notify' state' effect) := by
  obtain ⟨commits, alike⟩ := agree
  cases effect with
  | send frame =>
    have sent := alike.send link frame
    unfold Engine.perform
    dsimp only
    generalize Engine.send link frame _ = result at sent
    generalize Engine.send link frame _ = result' at sent
    obtain ⟨failure, alike⟩ := sent
    cases failure with
    | some error => exact .intro _ (tells _ alike)
    | none => exact .intro _ alike
  | startStreaming source =>
    unfold Engine.perform
    dsimp only
    cases link.threadFailure with
    | some error => exact .intro _ (tells _ (alike.observe rfl))
    | none => exact .intro _ alike
  | notify n => exact .intro _ (tells n alike)
  | commit outcome =>
    cases outcome with
    | fail error => exact .intro _ (tells _ alike)
    | result result last => exact .intro _ alike
    | finish discard => exact .intro _ alike

theorem performAll {state state' : List Commit × Engine} (agree : Agree g state state')
    (effects : List Effect) : Agree g (effects.foldl (Engine.perform link notify) state)
      (effects.foldl (Engine.perform link notify') state') := by
  induction effects generalizing state state' with
  | nil => exact agree
  | cons effect rest after => exact after (perform tells link agree effect)

theorem process (alike : Alike g e e') (event : Inbound) :
    Alike g (Engine.process link notify event e) (Engine.process link notify' event e') := by
  -- The transition looks at handle and parameters, which are the same, so its effects are, too.
  have performed := performAll tells link (.intro [] (alike.dispatch link event))
    (e.handle.transition event e.settings.parameters).2
  rw [process_eq, process_eq, alike.handle, alike.parameters]
  generalize List.foldl _ _ _ = result at performed
  generalize List.foldl _ _ _ = result' at performed
  obtain ⟨commits, alike⟩ := performed
  exact alike.onHandle _

theorem receive (alike : Alike g e e') (octets : Bytes) :
    Alike g (Engine.receive link notify octets e) (Engine.receive link notify' octets e') := by
  rw [receive_eq, receive_eq, alike.protocol]
  split
  · exact alike.process tells link _
  · exact alike

theorem connectionClosed (alike : Alike g e e') (reason : String) :
    Alike g (Engine.connectionClosed notify reason e)
      (Engine.connectionClosed notify' reason e') := by
  have stopped := (alike.onHandle fun h => { h with state := .none }).stopStreamer
  -- Whether a failure is told was settled before the session was dropped.
  have same := congrArg Handle.recognizing alike.handle
  cases running : e.handle.recognizing with
  | true =>
    simp only [Engine.connectionClosed, same, running, if_true]
    exact (stopped.fail tells _).disconnect
  | false =>
    simp only [Engine.connectionClosed, same, running, Bool.false_eq_true, if_false]
    exact stopped.disconnect

theorem recognize (alike : Alike g e e') (source : SourceId) (model : LanguageModel) :
    Agree g (Engine.recognize link notify source model e)
      (Engine.recognize link notify' source model e') := by
  have same := congrArg Handle.active alike.handle
  cases usable : model.usable with
  | false =>
    rw [recognize_of_unusable link notify source e usable,
      recognize_of_unusable link notify' source e' usable]
    exact .intro _ alike
  | true =>
    cases active : e.handle.active with
    | true =>
      rw [recognize_of_active link notify source usable active,
        recognize_of_active link notify' source usable (same.trans active)]
      exact .intro _ alike
    | false =>
      have sent := (alike.onHandle (·.begin source model)).sendFirst link
      rw [recognize_of_idle link notify source usable active,
        recognize_of_idle link notify' source usable (same.trans active)]
      generalize Engine.sendFirst link (e.onHandle _) = result at sent
      generalize Engine.sendFirst link (e'.onHandle _) = result' at sent
      obtain ⟨failure, alike⟩ := sent
      cases failure with
      | none => exact .intro _ alike
      | some error => exact .intro _ ((tells _ alike).onHandle _)

/-- A cancel fails for both, or both are closed after it where their settings say so. -/
theorem cancel (alike : Alike g e e') :
    (∃ error failed failed', Alike g failed failed' ∧
      Engine.cancel link notify e = (some error, failed) ∧
      Engine.cancel link notify' e' = (some error, failed')) ∨
    ∃ canceled canceled', Alike g canceled canceled' ∧
      Engine.cancel link notify e = (none, Engine.autoClose link canceled) ∧
      Engine.cancel link notify' e' = (none, Engine.autoClose link canceled') := by
  have stopped := alike.markCanceled.stopStreamer
  unfold Engine.cancel
  rw [alike.isOpen]
  cases e.isOpen with
  | false => exact .inr ⟨_, _, stopped, rfl, rfl⟩
  | true =>
    have sent := stopped.send link Request.cancelRecognition
    dsimp only
    rw [if_pos rfl, if_pos rfl]
    generalize Engine.send link _ e.markCanceled.stopStreamer = result at sent
    generalize Engine.send link _ e'.markCanceled.stopStreamer = result' at sent
    obtain ⟨failure, alike⟩ := sent
    cases failure with
    | some error => exact .inl ⟨error, _, _, alike.fail tells error, rfl, rfl⟩
    | none => exact .inr ⟨_, _, alike, rfl, rfl⟩

end Parts

theorem turn {link : Link} (reacts : Reacts g link notify notify') (alike : Alike g e e')
    (s : Streamer) : Alike g (Engine.turn link notify s e) (Engine.turn link notify' s e') := by
  unfold Engine.turn
  rw [alike.threads]
  split
  · exact alike
  · obtain ⟨same, read⟩ := alike.readSource s.source
    generalize e.readSource s.source = result at same read
    generalize e'.readSource s.source = result' at same read
    obtain ⟨r, a⟩ := result
    obtain ⟨r', a'⟩ := result'
    obtain rfl : r' = r.mapReaction g.reaction := same
    have reacted := reacts r.reaction read
    -- The callback may have stopped the thread, so threads are compared once more after it.
    dsimp only [OwnRead.mapReaction] at reacted ⊢
    generalize react link notify r.reaction a = a at reacted
    generalize react link notify' (g.reaction r.reaction) a' = a' at reacted
    split
    · exact (reacted.endThread s).fail tells _
    · rw [reacted.threads]
      split
      · exact reacted
      · split
        · exact reacted
        next frame _ =>
          have sent := reacted.send link frame
          generalize Engine.send link frame a = result at sent
          generalize Engine.send link frame a' = result' at sent
          obtain ⟨failure, sent⟩ := sent
          cases failure with
          | some error => exact (sent.endThread s).fail tells error
          | none =>
            dsimp only
            split
            · exact sent.endThread s
            · exact sent

end Telling

theorem notifyAll {outside : Outside} (responsive : Responsive g outside.toLink) (depth : Nat) :
    Tells g (Engine.notifyAll outside depth)
      (Engine.notifyAll (outside.mapReactions g.reaction) depth) := by
  -- On the depth: callbacks tell listeners one level down.
  induction depth with
  | zero =>
    intro n e e' alike
    unfold Engine.notifyAll
    rw [alike.listeners]
    exact foldl (fun i _ _ alike => alike.observe (o := .notified i n) rfl) _ alike
  | succ depth deeper =>
    intro n e e' alike
    unfold Engine.notifyAll
    rw [alike.listeners]
    exact foldl (fun i _ _ alike => responsive deeper (outside.reaction i n)
      (alike.observe (o := .notified i n) rfl)) _ alike

/-! ## Operations -/

/-- Both wait in vain, or both take the same outcome and are closed where their settings say so. -/
theorem waitResult (alike : Alike g e e') (link : Link) :
    Engine.waitResult link e = (.error (.timeout e.settings.maxWait), e) ∧
        Engine.waitResult link e' = (.error (.timeout e.settings.maxWait), e') ∧
        (e.isOpen && e.handle.stillWaiting) = true ∨
    ∃ outcome taken taken', Alike g taken taken' ∧
      Engine.waitResult link e = (outcome, Engine.autoClose link taken) ∧
      Engine.waitResult link e' = (outcome, Engine.autoClose link taken') ∧
      (e.isOpen && e.handle.stillWaiting) = false := by
  have same : (e'.isOpen && e'.handle.stillWaiting) = (e.isOpen && e.handle.stillWaiting) := by
    rw [alike.isOpen, alike.handle]
  -- The close at the end is left to the caller: here the settings of the two may differ.
  cases waiting : e.isOpen && e.handle.stillWaiting with
  | true =>
    rw [waitResult_of_waiting link waiting, waitResult_of_waiting link (same.trans waiting),
      alike.maxWait]
    exact .inl ⟨rfl, rfl, rfl⟩
  | false =>
    rw [waitResult_of_decided link waiting, waitResult_of_decided link (same.trans waiting),
      alike.handle]
    exact .inr ⟨_, _, _, alike.giveOutcome, rfl, rfl, rfl⟩

/-- Recognizers that are alike do the same and are alike after that.  The end of a wait and of a
cancel is up to their settings, and news reach both or neither. -/
theorem step {outside : Outside} (responsive : Responsive g outside.toLink) (depth : Nat)
    {operation : Operation} (unclosing : operation ≠ .wait ∧ operation ≠ .cancel)
    (reached : operation.isNews = true → e'.subscribed = e.subscribed) (alike : Alike g e e') :
    Agree g (Engine.step depth outside operation e)
      (Engine.step depth (outside.mapReactions g.reaction) operation e') := by
  have tells := notifyAll responsive depth
  cases operation with
  | recognize source model =>
    have begun := alike.recognize tells outside.toLink source model
    exact begun.map fun failure => Answer.reply (replyOf failure)
  | wait => exact absurd rfl unclosing.1
  | cancel => exact absurd rfl unclosing.2
  | startTimers =>
    have sent := alike.send outside.toLink Request.startInputTimers
    exact sent.map fun failure => Answer.reply (replyOf failure)
  | close => exact .intro _ (alike.close outside.toLink)
  | status =>
    simp only [Engine.step, alike.handle, alike.isOpen]
    exact .intro _ alike
  | write source bytes => exact (alike.write source bytes).map Answer.accepted
  | finish source => exact .intro _ (alike.finish source)
  | message octets =>
    simp only [Engine.step]
    split
    next known =>
      rw [if_pos ((reached rfl).trans known)]
      exact .intro _ (alike.receive tells outside.toLink octets)
    next unknown =>
      rw [if_neg (reached rfl ▸ unknown)]
      exact .intro _ alike
  | lost reason =>
    simp only [Engine.step]
    split
    next known =>
      rw [if_pos ((reached rfl).trans known)]
      exact .intro _ (alike.connectionClosed tells reason)
    next unknown =>
      rw [if_neg (reached rfl ▸ unknown)]
      exact .intro _ alike.disconnect
  | vanish => exact .intro _ alike.disconnect
  | stream thread => exact .intro _ (alike.turn tells (responsive tells) thread)

end Alike

/-! ## Runs side by side -/

def answersTo {α : Type} (chosen : α → Bool) (operations : List α) (answers : List Answer) :
    List Answer :=
  ((operations.zip answers).filter fun p => chosen p.1).map Prod.snd

theorem answersTo_cons {α : Type} (chosen : α → Bool) (a : α) (rest : List α) (answer : Answer)
    (answers : List Answer) : answersTo chosen (a :: rest) (answer :: answers) =
      if chosen a then answer :: answersTo chosen rest answers
      else answersTo chosen rest answers := by
  unfold answersTo
  rw [List.zip_cons_cons, List.filter_cons]
  split
  · rfl
  · rfl

end Engine

end SpeechClient
