import SpeechClient.Proofs.Session.Reachable
import SpeechClient.Proofs.Session.Rows

/-!
# Chronicles of runs

A chronicle has an entry for everything that can be seen of a run: operations begin and end, and
observations are made in between, also of what callbacks do.  What has to do with the order of
things is said of chronicles.

- `Entry`, `Chronicle`: what can be seen of a run.
- `Chronicle.Since`: the latest entry of some kind has not been followed by one of another kind.
- `Chronicle.Always`: every entry is right after those before it.
- `Engine.Chronicled`: a state that operations lead to, with the chronicle of these operations.
- `Episode.upTo`: the chronicle of an operation that is still on its way.
-/

namespace SpeechClient

deriving instance DecidableEq for Answer, Observation

def Operation.brings? (protocol : ServerProtocol) : Operation → Option Inbound
  | .message octets => Inbound.ofMessage? protocol octets
  | _ => none

inductive Entry where
  /-- News from the connection begin nothing where there is nobody to bring them to. -/
  | began (operation : Operation)
  | seen (during : Operation) (observation : Observation)
  /-- A wait came to an outcome, and took it. -/
  | taken
  | ended (operation : Operation) (answer : Answer)
  deriving DecidableEq

def Entry.accepts : Entry → Bool
  | ended (.recognize _ _) (.reply .done) => true
  | _ => false

abbrev Chronicle := List Entry

namespace Chronicle

variable {start stop : Entry → Bool} {P : Chronicle → Entry → Prop} {log : Chronicle}

/-- Since some entry of one kind there has been none of another kind. -/
def Since (start stop : Entry → Bool) (log : Chronicle) : Prop :=
  ∃ before entry after, log = before ++ entry :: after ∧ start entry = true ∧
    ∀ later ∈ after, stop later = false

/-- Every entry is right after those before it. -/
def Always (P : Chronicle → Entry → Prop) (log : Chronicle) : Prop :=
  ∀ before entry after, log = before ++ entry :: after → P before entry

/-- The entry that divides a chronicle is the last one, or comes before the last one. -/
theorem split_concat {before after : Chronicle} {entry last : Entry}
    (split : log ++ [last] = before ++ entry :: after) :
    (log = before ∧ entry = last ∧ after = []) ∨
      ∃ rest, after = rest ++ [last] ∧ log = before ++ entry :: rest := by
  cases after using List.reverseRecOn with
  | nil =>
    obtain ⟨same, sameLast⟩ := List.append_inj' split rfl
    cases sameLast
    exact .inl ⟨same, rfl, rfl⟩
  | append_singleton rest final =>
    rw [← List.cons_append, ← List.append_assoc] at split
    obtain ⟨same, sameLast⟩ := List.append_inj' split rfl
    cases sameLast
    exact .inr ⟨rest, rfl, same⟩

/-- The entry that divides a chronicle is in its first part or in its second. -/
theorem split_append {before after more : Chronicle} {entry : Entry}
    (split : log ++ more = before ++ entry :: after) :
    (∃ rest, log = before ++ entry :: rest ∧ after = rest ++ more) ∨
      ∃ earlier, before = log ++ earlier ∧ more = earlier ++ entry :: after := by
  obtain ⟨earlier, same, rest⟩ | ⟨rest, same, later⟩ := List.append_eq_append_iff.mp split
  · exact .inr ⟨earlier, same, rest⟩
  · cases rest with
    | nil => exact .inr ⟨[], by simpa using same.symm, by simpa using later.symm⟩
    | cons first rest =>
      obtain ⟨rfl, after⟩ := List.cons.inj later
      exact .inl ⟨rest, same, after⟩

theorem not_since_nil : ¬Since start stop [] := by
  rintro ⟨before, entry, after, split, -⟩
  simp at split

theorem since_concat {entry : Entry} : Since start stop (log ++ [entry]) ↔
    start entry = true ∨ Since start stop log ∧ stop entry = false := by
  constructor
  · rintro ⟨before, first, after, split, starts, quiet⟩
    obtain ⟨-, rfl, -⟩ | ⟨rest, rfl, rfl⟩ := split_concat split
    · exact .inl starts
    · refine .inr ⟨⟨before, first, rest, rfl, starts, ?_⟩, quiet entry (by simp)⟩
      intro later member
      exact quiet later (by simp [member])
  · rintro (starts | ⟨⟨before, first, after, rfl, starts, quiet⟩, goes⟩)
    · exact ⟨log, entry, [], rfl, starts, by simp⟩
    · refine ⟨before, first, after ++ [entry], by simp, starts, ?_⟩
      intro later member
      cases List.mem_append.mp member with
      | inl member => exact quiet later member
      | inr member => exact List.mem_singleton.mp member ▸ goes

theorem since_iff_foldl : Since start stop log ↔
    log.foldl (fun since entry => start entry || since && !stop entry) false = true := by
  induction log using List.reverseRecOn with
  | nil => simp [not_since_nil]
  | append_singleton rest last before =>
    rw [since_concat, before, List.foldl_concat]
    simp

instance : Decidable (Since start stop log) :=
  decidable_of_iff _ since_iff_foldl.symm

theorem Since.append (since : Since start stop log) {more : Chronicle}
    (quiet : ∀ entry ∈ more, stop entry = false) : Since start stop (log ++ more) := by
  induction more using List.reverseRecOn with
  | nil => simpa using since
  | append_singleton rest last before =>
    rw [← List.append_assoc, since_concat]
    exact .inr ⟨before fun entry member => quiet entry (by simp [member]), quiet last (by simp)⟩

theorem since_of_mem {more : Chronicle} {entry : Entry} (member : entry ∈ more)
    (starts : start entry = true) (quiet : ∀ later ∈ more, stop later = false) :
    Since start stop (log ++ more) := by
  obtain ⟨before, after, rfl⟩ := List.append_of_mem member
  refine ⟨log ++ before, entry, after, by simp, starts, fun later member => ?_⟩
  exact quiet later (by simp [member])

/-- What later entries did not begin has been so before. -/
theorem Since.of_append {more : Chronicle} (since : Since start stop (log ++ more))
    (none : ∀ entry ∈ more, start entry = false) :
    Since start stop log ∧ ∀ entry ∈ more, stop entry = false := by
  induction more using List.reverseRecOn with
  | nil => exact ⟨by simpa using since, by simp⟩
  | append_singleton rest last before =>
    rw [← List.append_assoc, since_concat] at since
    cases since with
    | inl starts => exact absurd starts (by simp [none last])
    | inr since =>
      obtain ⟨kept, quiet⟩ := before since.1 fun entry member => none entry (by simp [member])
      refine ⟨kept, ?_⟩
      intro entry member
      cases List.mem_append.mp member with
      | inl member => exact quiet entry member
      | inr member => exact List.mem_singleton.mp member ▸ since.2

theorem always_nil : Always P [] := by
  intro before entry after split
  simp at split

theorem always_concat {entry : Entry} :
    Always P (log ++ [entry]) ↔ Always P log ∧ P log entry := by
  constructor
  · intro always
    refine ⟨fun before other after split => ?_, always log entry [] rfl⟩
    exact always before other (after ++ [entry]) (by simp [split])
  · rintro ⟨always, right⟩ before other after split
    obtain ⟨rfl, rfl, -⟩ | ⟨rest, -, same⟩ := split_concat split
    · exact right
    · exact always before other rest same

instance [∀ before entry, Decidable (P before entry)] : Decidable (Always P log) :=
  decidable_of_iff (∀ i : Fin log.length, P (log.take i) log[i]) <| by
    constructor
    · rintro right before entry after rfl
      simpa using right ⟨before.length, by simp⟩
    · intro always i
      refine always _ _ (log.drop (i + 1)) ?_
      simp

theorem Always.append (always : Always P log) {more : Chronicle}
    (right : ∀ before, ∀ entry ∈ more, P before entry) : Always P (log ++ more) := by
  induction more using List.reverseRecOn with
  | nil => simpa using always
  | append_singleton rest last before =>
    rw [← List.append_assoc, always_concat]
    exact ⟨before fun earlier entry member => right earlier entry (by simp [member]),
      right _ last (by simp)⟩

end Chronicle

namespace Episode

variable {ep : Episode} {e e' : Engine}

def opening (ep : Episode) : Chronicle :=
  match ep.operation with
  | .message _ | .lost _ => if ep.start.subscribed then [.began ep.operation] else []
  | _ => [.began ep.operation]

theorem began_of_mem_opening {entry : Entry} (member : entry ∈ ep.opening) :
    entry = .began ep.operation := by
  unfold opening at member
  split at member
  · split at member
    · exact List.mem_singleton.mp member
    · cases member
  · split at member
    · exact List.mem_singleton.mp member
    · cases member
  · exact List.mem_singleton.mp member

/-- A message that brings an event is in the chronicle from the beginning. -/
theorem opening_of_event? {event : Inbound} (brought : ep.event? = some event) :
    (∃ octets, ep.operation = .message octets) ∧
      ep.operation.brings? ep.start.settings.protocol = some event ∧
      ep.opening = [.began ep.operation] := by
  unfold event? at brought
  split at brought
  next octets asked =>
    split at brought
    next reached =>
      refine ⟨⟨octets, asked⟩, ?_, ?_⟩
      · rw [asked]
        exact brought
      · simp only [opening, asked, reached, if_true]
    · cases brought
  · cases brought

theorem event?_eq_none (silent : ∀ octets, .began (.message octets) ∉ ep.opening) :
    ep.event? = none := by
  by_contra brought
  obtain ⟨event, brought⟩ := Option.ne_none_iff_exists'.mp brought
  obtain ⟨⟨octets, asked⟩, -, opening⟩ := opening_of_event? brought
  exact silent octets (by simp [opening, asked])

/-- How an operation ends.  A wait that has to wait on takes nothing. -/
def ending (ep : Episode) : Chronicle :=
  match ep.operation with
  | .wait =>
    if ep.start.isOpen && ep.start.handle.stillWaiting then [.ended .wait ep.answer]
    else [.taken, .ended .wait ep.answer]
  | _ => [.ended ep.operation ep.answer]

theorem ended_or_taken_of_mem_ending {entry : Entry} (member : entry ∈ ep.ending) :
    entry = .ended ep.operation ep.answer ∨ entry = .taken ∧ ep.operation = .wait ∧
      (ep.start.isOpen && ep.start.handle.stillWaiting) = false := by
  unfold ending at member
  split at member
  next waited =>
    rw [waited]
    cases decided : ep.start.isOpen && ep.start.handle.stillWaiting with
    | true =>
      rw [decided] at member
      exact .inl (List.mem_singleton.mp member)
    | false =>
      rw [decided] at member
      cases List.mem_cons.mp member with
      | inl taken => exact .inr ⟨taken, rfl, rfl⟩
      | inr ended => exact .inl (List.mem_singleton.mp ended)
  · exact .inl (List.mem_singleton.mp member)

theorem ended_mem_ending (ep : Episode) : .ended ep.operation ep.answer ∈ ep.ending := by
  unfold ending
  split
  next waited =>
    rw [waited]
    split <;> simp
  · exact List.mem_singleton_self _

theorem asked_of_mem_ending {entry : Entry} (member : entry ∈ ep.ending)
    (accepts : entry.accepts = true) :
    (∃ source model, ep.operation = .recognize source model) ∧ ep.answer = .reply .done := by
  obtain rfl | ⟨rfl, -⟩ := ended_or_taken_of_mem_ending member
  · unfold Entry.accepts at accepts
    split at accepts
    next source model same =>
      obtain ⟨asked, answered⟩ := Entry.ended.inj same
      exact ⟨⟨source, model, asked⟩, answered⟩
    · cases accepts
  · cases accepts

def upTo (ep : Episode) (e : Engine) : Chronicle :=
  ep.opening ++ (e.seenSince ep.start).map (.seen ep.operation)

theorem upTo_start (ep : Episode) : ep.upTo ep.start = ep.opening := by
  simp [upTo, Engine.seenSince]

theorem began_or_seen_of_mem_upTo {entry : Entry} (member : entry ∈ ep.upTo e) :
    entry = .began ep.operation ∨ ∃ o ∈ e.seenSince ep.start, entry = .seen ep.operation o := by
  cases List.mem_append.mp member with
  | inl opens => exact .inl (began_of_mem_opening opens)
  | inr member =>
    obtain ⟨o, seen, rfl⟩ := List.mem_map.mp member
    exact .inr ⟨o, seen, rfl⟩

theorem mem_upTo_of_grown {entry : Entry} (later : e.trace <+: e'.trace)
    (member : entry ∈ ep.upTo e) : entry ∈ ep.upTo e' := by
  cases List.mem_append.mp member with
  | inl opens => exact List.mem_append_left _ opens
  | inr member =>
    obtain ⟨o, seen, rfl⟩ := List.mem_map.mp member
    exact List.mem_append_right _ (List.mem_map_of_mem (Engine.mem_seenSince_of_grown later seen))

theorem upTo_append {more : List Observation} (since : ep.start.trace <+: e.trace)
    (seen : e'.trace = e.trace ++ more) :
    ep.upTo e' = ep.upTo e ++ more.map (.seen ep.operation) := by
  simp only [upTo, Engine.seenSince_append since seen, List.map_append, List.append_assoc]

theorem upTo_observe (since : ep.start.trace <+: e.trace) (o : Observation) :
    ep.upTo (e.observe o) = ep.upTo e ++ [.seen ep.operation o] := by
  have seen : (e.observe o).trace = e.trace ++ [o] := rfl
  rw [upTo_append since seen, List.map_singleton]

theorem upTo_of_trace_eq (same : e'.trace = e.trace) : ep.upTo e' = ep.upTo e := by
  simp only [upTo, Engine.seenSince, same]

theorem seen_mem_upTo {o : Observation} (seen : o ∈ e.seenSince ep.start) :
    .seen ep.operation o ∈ ep.upTo e :=
  List.mem_append_right _ (List.mem_map_of_mem seen)

/-- A move adds one observation to the chronicle, or sources that are closed. -/
theorem upTo_of_move (moves : Engine.Moves ep ep.start e) (move : Engine.Move ep e e') :
    (∃ o, Engine.Observes ep e o ∧ e' = e.observe o ∧
      ep.upTo e' = ep.upTo e ++ [.seen ep.operation o]) ∨
    ∃ sources : List SourceId,
      ep.upTo e' = ep.upTo e ++ sources.map fun i => .seen ep.operation (.audioClosed i) := by
  obtain ⟨o, observes, rfl⟩ | ⟨sources, seen⟩ := move.seen
  · exact .inl ⟨o, observes, rfl, upTo_observe moves.grows o⟩
  · refine .inr ⟨sources, ?_⟩
    rw [upTo_append moves.grows seen, List.map_map]
    rfl

end Episode

namespace Engine

def episode (depth : Nat) (outside : Outside) (operation : Operation) (e : Engine) : Episode :=
  ⟨operation, (e.step depth outside operation).1, e⟩

theorem episode_moves (depth : Nat) (outside : Outside) (operation : Operation) (e : Engine) :
    Moves (e.episode depth outside operation) e (e.step depth outside operation).2 :=
  step_moves depth outside operation e

def entries (depth : Nat) (outside : Outside) (operation : Operation) (e : Engine) : Chronicle :=
  let ep := e.episode depth outside operation
  ep.upTo (e.step depth outside operation).2 ++ ep.ending

/-- A state that operations lead to from a first one, and the chronicle of these operations. -/
inductive Chronicled (first : Engine) : Engine → Chronicle → Prop where
  | start : Chronicled first first []
  | attach {e : Engine} {log : Chronicle} (source : AudioSource) :
      Chronicled first e log → Chronicled first (e.attach source).2 log
  | step {e : Engine} {log : Chronicle} (depth : Nat) (outside : Outside)
      (operation : Operation) : Chronicled first e log →
      Chronicled first (e.step depth outside operation).2
        (log ++ e.entries depth outside operation)

variable {first e : Engine} {log : Chronicle}

theorem Chronicled.same (run : Chronicled first e log) :
    e.settings = first.settings ∧ e.listeners = first.listeners := by
  induction run with
  | start => exact ⟨rfl, rfl⟩
  | attach source _ before => exact before
  | @step e _ depth outside operation _ before =>
    have same := (step_moves depth outside operation e).same
    exact ⟨same.1.trans before.1, same.2.trans before.2⟩

theorem Chronicled.reachable (run : Chronicled first e log) (reached : first.Reachable) :
    e.Reachable := by
  induction run with
  | start => exact reached
  | attach source _ before => exact .attach source before
  | step depth outside operation _ before => exact .step depth outside operation before

/-- What holds at first and carries over each operation holds all along: it gives what holds on the
way when the operation begins, every move keeps that, and the end of the operation gives it back. -/
theorem Chronicled.keep {P : Engine → Chronicle → Prop} {Q : Episode → Engine → Chronicle → Prop}
    (run : Chronicled first e log) (start : P first [])
    (attach : ∀ {e log} (source : AudioSource), P e log → P (e.attach source).2 log)
    (opening : ∀ {ep : Episode} {log}, P ep.start log → Q ep ep.start (log ++ ep.opening))
    (move : ∀ {ep : Episode} {log a b}, Chronicled first ep.start log → P ep.start log →
      Moves ep ep.start a → Move ep a b → Q ep a (log ++ ep.upTo a) → Q ep b (log ++ ep.upTo b))
    (ending : ∀ {e log} (depth : Nat) (outside : Outside) (operation : Operation),
      let ep := e.episode depth outside operation
      let later := (e.step depth outside operation).2
      Chronicled first e log → P e log → Q ep later (log ++ ep.upTo later) →
      P later (log ++ ep.upTo later ++ ep.ending)) : P e log := by
  induction run with
  | start => exact start
  | attach source _ before => exact attach source before
  | @step e log depth outside operation run before =>
    have moves := episode_moves depth outside operation e
    have opened : Q (e.episode depth outside operation) e
        (log ++ (e.episode depth outside operation).opening) := opening before
    rw [← Episode.upTo_start] at opened
    have kept := moves.keepOn
      (P := fun a => Q (e.episode depth outside operation) a
        (log ++ (e.episode depth outside operation).upTo a))
      (fun earlier next => move run before earlier next) opened
    rw [entries, ← List.append_assoc]
    exact ending depth outside operation run before kept

end Engine

end SpeechClient
