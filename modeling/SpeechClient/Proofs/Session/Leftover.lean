import SpeechClient.Proofs.Session.Custody

/-!
# Sources that are left over

A recognizer closes the source of a recognition with the thread that streams it, or with the whole
recognition.  As long as the server has not said that the recognition has started there is no
thread, and the source only has its place in the handle.  The next recognition takes that place, and
then nobody closes the source any more.

- `Entry.secures`, `Chronicle.Unreplaced`: the source has been handed to a thread, or a close has
  come to its end, before the next recognition begins.
- `Engine.Accounted`, `Engine.Adrift`: where the source of a recognition is later.
- `Engine.closed_unless_replaced`: which sources are closed in the end.
-/

namespace SpeechClient

/-- The source of the recognition will be closed: a thread streams it, or a close has come to its
end. -/
def Entry.secures (settings : Settings) (entry : Entry) : Bool :=
  entry.starts settings.protocol || entry.closes settings.autoClose

def Entry.refusesThread (i : SourceId) : Entry → Bool
  | seen _ (.threadRefused j) => i = j
  | _ => false

namespace Chronicle

variable {settings : Settings} {log more : Chronicle}

/-- No recognition begins before the source of the one before is secured. -/
def Unreplaced (settings : Settings) (log : Chronicle) : Prop :=
  log.Always fun before entry =>
    entry.begins = true → ∃ earlier ∈ before, earlier.secures settings = true

instance : Decidable (log.Unreplaced settings) :=
  inferInstanceAs (Decidable (log.Always _))

theorem unreplaced_append : (log ++ more).Unreplaced settings ↔ log.Unreplaced settings ∧
    ((∃ entry ∈ log, entry.secures settings = true) ∨ more.Unreplaced settings) := by
  constructor
  · intro unreplaced
    refine ⟨fun before entry after split => ?_, ?_⟩
    · exact unreplaced before entry (after ++ more) (by simp [split])
    · by_cases secured : ∃ entry ∈ log, entry.secures settings = true
      · exact .inl secured
      · refine .inr fun before entry after split begins => ?_
        obtain ⟨earlier, member, secures⟩ :=
          unreplaced (log ++ before) entry after (by simp [split]) begins
        cases List.mem_append.mp member with
        | inl member => exact absurd ⟨earlier, member, secures⟩ secured
        | inr member => exact ⟨earlier, member, secures⟩
  · rintro ⟨first, later⟩ before entry after split begins
    obtain ⟨rest, same, -⟩ | ⟨rest, rfl, same⟩ := split_append split
    · exact first before entry rest same begins
    · obtain ⟨earlier, member, secures⟩ | later := later
      · exact ⟨earlier, List.mem_append_left _ member, secures⟩
      · obtain ⟨earlier, member, secures⟩ := later rest entry after same begins
        exact ⟨earlier, List.mem_append_right _ member, secures⟩

theorem unreplaced_of_not_begins (unbegun : ∀ entry ∈ log, entry.begins = false) :
    log.Unreplaced settings := by
  rintro before entry after rfl begins
  rw [unbegun entry (by simp)] at begins
  cases begins

end Chronicle

namespace Engine

variable {ep : Episode} {e e' : Engine} {i : SourceId} {link : Link} {notify : Notify}

/-! ## What is kept until a close -/

theorem markCanceled_audioSource (e : Engine) :
    e.markCanceled.handle.audioSource = e.handle.audioSource := by
  unfold markCanceled
  split
  · rfl
  · split
    · rfl
    · exact e.handle.commit_audioSource _

def ShutSince (e start : Engine) : Prop :=
  ∃ o ∈ e.seenSince start, ∀ during,
    (Entry.seen during o).closes start.settings.autoClose = true

theorem Deed.audioSource (deed : Deed e e') :
    e'.ShutSince e ∨ e'.handle.audioSource = e.handle.audioSource := by
  cases deed with
  | stopped =>
    rw [stopStreamer_handle]
    exact .inr rfl
  | recorded outcome => exact .inr (e.handle.commit_audioSource outcome)
  | @cancelAsked link =>
    have face := send_face link e.markCanceled.stopStreamer Request.cancelRecognition
    have handle := congrArg (·.handle.audioSource) (face.trans (stopStreamer_face e.markCanceled))
    exact .inr (handle.trans (markCanceled_audioSource e))
  | @closed link _ action reply closes =>
    have moves : Moves ⟨.close, .reply .done, e⟩ e (close link e) := close_moves link e
    refine .inl ⟨.acted action reply, ?_, closes⟩
    rw [seenSince_observe moves.grows]
    exact List.mem_append_right _ (List.mem_singleton_self _)
  | dispatched link event =>
    obtain ⟨_, _, _, handle⟩ := dispatch_fields link event e
    rw [handle]
    exact .inr rfl
  | _ => exact .inr rfl

theorem Deeds.audioSource (deeds : Deeds e e') :
    e'.ShutSince e ∨ e'.handle.audioSource = e.handle.audioSource := by
  induction deeds with
  | refl => exact .inr rfl
  | @tail a b before deed kept =>
    obtain ⟨grows, settings⟩ := Deeds.grows before
    cases kept with
    | inl shut =>
      obtain ⟨o, seen, closes⟩ := shut
      exact .inl ⟨o, mem_seenSince_of_grown deed.grows.1 seen, closes⟩
    | inr same =>
      cases deed.audioSource with
      | inl shut =>
        obtain ⟨o, seen, closes⟩ := shut
        rw [settings] at closes
        refine .inl ⟨o, ?_, closes⟩
        rw [seenSince_trans grows deed.grows.1]
        exact List.mem_append_right _ seen
      | inr later => exact .inr (later.trans same)

/-! ## Operations -/

section Steps

variable {depth : Nat} {outside : Outside} {operation : Operation}

theorem mem_closed_entries : i ∈ (e.entries depth outside operation).closed ↔
    .audioClosed i ∈ (e.step depth outside operation).2.seenSince e := by
  let ep := e.episode depth outside operation
  have unseen (entry : Entry) (named : entry = .began ep.operation ∨ entry ∈ ep.ending) :
      entry.closed? = none := by
    obtain rfl | member := named
    · rfl
    · obtain rfl | ⟨rfl, -⟩ := Episode.ended_or_taken_of_mem_ending member
      · rfl
      · rfl
  simp only [Chronicle.closed, List.mem_filterMap]
  constructor
  · rintro ⟨entry, member, closes⟩
    cases List.mem_append.mp member with
    | inl member =>
      obtain rfl | ⟨o, seen, rfl⟩ := Episode.began_or_seen_of_mem_upTo member
      · cases closes
      · cases o with
        | audioClosed source =>
          cases closes
          exact seen
        | _ => cases closes
    | inr member =>
      rw [unseen entry (.inr member)] at closes
      cases closes
  · intro seen
    have member : Entry.seen ep.operation (.audioClosed i) ∈
        ep.upTo (e.step depth outside operation).2 := Episode.seen_mem_upTo seen
    exact ⟨_, List.mem_append_left _ member, rfl⟩

theorem secures_ended {answer : Answer} {settings : Settings} :
    (Entry.ended operation answer).secures settings =
      (Entry.ended operation answer).closes settings.autoClose := by
  simp [Entry.secures, Entry.starts]

theorem threadRefused_of_performed (telling : ∀ n e, Deeds e (notify n e))
    {error : RecognitionError} (refused : link.threadFailure = some error) {effects : List Effect}
    (asked : .startStreaming i ∈ effects) (state : List Commit × Engine) :
    .threadRefused i ∈ (effects.foldl (perform link notify) state).2.seenSince state.2 := by
  obtain ⟨before, after, rfl⟩ := List.append_of_mem asked
  have first := (performAll_deeds link telling before state).grows.1
  rw [List.foldl_append, List.foldl_cons]
  generalize before.foldl (perform link notify) state = result at first ⊢
  obtain ⟨commits, e⟩ := result
  have now := (perform_deeds link telling (commits, e) (.startStreaming i)).grows.1
  have here : .threadRefused i ∈
      (perform link notify (commits, e) (.startStreaming i)).2.seenSince e := by
    simp only [perform, refused]
    refine mem_seenSince_of_grown (telling _ _).grows.1 ?_
    rw [seenSince_observe List.prefix_rfl]
    exact List.mem_append_right _ (List.mem_singleton_self _)
  generalize perform link notify (commits, e) (.startStreaming i) = performed at now here ⊢
  have later := (performAll_deeds link telling after performed).grows.1
  rw [seenSince_trans first (now.trans later)]
  exact List.mem_append_right _ (mem_seenSince_of_grown later here)

/-- Where no thread can be started for the source of a recognition, that is seen. -/
theorem process_threadRefused (telling : ∀ n e, Deeds e (notify n e)) {error : RecognitionError}
    (refused : link.threadFailure = some error) {event : Inbound} (starts : event.starts = true)
    (known : e.handle.audioSource = some i) :
    .threadRefused i ∈ (process link notify event e).seenSince e := by
  let effects := (e.handle.transition event e.settings.parameters).2
  have asked : .startStreaming i ∈ effects := by
    obtain ⟨told, same, -⟩ : ∃ told, effects =
        told ++ e.handle.audioSource.toList.map .startStreaming ∧ _ :=
      Handle.effects_of_starts starts
    simp [same, known]
  have first := (Deed.dispatched link event e).grows.1
  have later := (performAll_deeds link telling effects ([], e.dispatch link event)).grows.1
  rw [process_eq]
  change _ ∈ (effects.foldl (perform link notify) ([], e.dispatch link event)).2.seenSince e
  rw [seenSince_trans first later]
  exact List.mem_append_right _ (threadRefused_of_performed telling refused asked _)

/-- Where a message says that the recognition has started, its source is handed to a thread, unless
none is started. -/
theorem step_streamed_of_starts
    (began : .began operation ∈ (e.episode depth outside operation).opening)
    (starts : (Entry.began operation).starts e.settings.protocol = true) (inHand : e.InHand i)
    (threaded : .threadRefused i ∉ (e.step depth outside operation).2.seenSince e) :
    .audioClosed i ∈ (e.step depth outside operation).2.seenSince e ∨
      (e.step depth outside operation).2.streamed = some i := by
  let ep := e.episode depth outside operation
  obtain ⟨event, brings, begins⟩ := (Option.any_eq_true _ _).mp starts
  cases operation with
  | message octets =>
    have reached : e.subscribed = true := by
      by_contra unreached
      simp [Episode.opening, episode, unreached] at began
    have brought : ep.event? = some event := by
      simpa [Episode.event?, ep, episode, reached, Operation.brings?] using brings
    have processed : (e.step depth outside (.message octets)).2 =
        process outside.toLink (notifyAll outside depth) event e := by
      have read : Inbound.ofMessage? e.settings.protocol octets = some event := brings
      simp only [step, reached, if_true, receive_eq, read]
    let link := outside.toLink
    have dispatching : Move ep e (e.dispatch link event) := .dispatched link brought
    have started : .audioClosed i ∈ (e.dispatch link event).seenSince e ∨
        (e.dispatch link event).streamed = some i := by
      cases inHand with
      | inl known =>
        obtain ⟨-, streamed, -⟩ := dispatch_of_starts_with link begins known
        cases refused : link.threadFailure with
        | none =>
          rw [refused] at streamed
          exact .inr streamed
        | some error =>
          rw [processed] at threaded
          exact absurd (process_threadRefused (notifyAll_deeds outside depth) refused begins known)
            threaded
      | inr streams => exact dispatching.streamed streams
    have later : Moves ep (e.dispatch link event)
        (process outside.toLink (notifyAll outside depth) event e) :=
      process_moves_dispatched outside.toLink (notifyAll_telling outside depth) brought
    rw [processed]
    cases started with
    | inl closed => exact .inl (mem_seenSince_of_grown later.grows closed)
    | inr streams =>
      cases later.closed_or (fun move => move.streamed) streams with
      | inl closed =>
        rw [seenSince_trans dispatching.grows later.grows]
        exact .inl (List.mem_append_right _ closed)
      | inr streams => exact .inr streams
  | _ => cases brings

theorem step_secured (other : ∀ source model, operation ≠ .recognize source model)
    (inHand : e.InHand i)
    (threaded : ∀ entry ∈ e.entries depth outside operation, entry.refusesThread i = false)
    {entry : Entry} (member : entry ∈ e.entries depth outside operation)
    (secures : entry.secures e.settings = true) :
    .audioClosed i ∈ (e.step depth outside operation).2.seenSince e ∨
      (e.step depth outside operation).2.streamed = some i := by
  have moves := episode_moves depth outside operation e
  cases List.mem_append.mp member with
  | inl member =>
    cases List.mem_append.mp member with
    | inl opens =>
      obtain rfl := Episode.began_of_mem_opening opens
      have lasting : ¬(Entry.began operation).closes e.settings.autoClose = true := nofun
      have starts := (Bool.or_eq_true_iff.mp secures).resolve_right lasting
      refine step_streamed_of_starts opens starts inHand fun refused => ?_
      have member : Entry.seen operation (.threadRefused i) ∈ e.entries depth outside operation :=
        List.mem_append_left _ (Episode.seen_mem_upTo refused)
      simpa [Entry.refusesThread] using threaded _ member
    | inr member =>
      obtain ⟨o, seen, rfl⟩ := List.mem_map.mp member
      have closes : (Entry.seen operation o).closes e.settings.autoClose = true := secures
      exact .inl (moves.closed_of_closes other inHand seen closes)
  | inr member =>
    have closes : entry.closes e.settings.autoClose = true := by
      obtain rfl | ⟨rfl, -⟩ := Episode.ended_or_taken_of_mem_ending member
      · exact secures_ended.symm.trans secures
      · simpa [Entry.secures, Entry.starts] using secures
    have forgotten := step_closed depth outside operation e member closes
    exact .inl ((moves.closed_or (fun move => move.inHand other) inHand).resolve_right
      (not_inHand_of_forgotten forgotten))

/-- Without the end of a close an operation leaves the source of the recognition what it is. -/
theorem step_audioSource (other : ∀ source model, operation ≠ .recognize source model)
    (unclosed : ∀ entry ∈ e.entries depth outside operation,
      entry.closes e.settings.autoClose = false) :
    (e.step depth outside operation).2.handle.audioSource = e.handle.audioSource := by
  let ep := e.episode depth outside operation
  by_cases taken : .taken ∈ ep.ending
  · obtain same | ⟨-, waited, decided⟩ := Episode.ended_or_taken_of_mem_ending taken
    · cases same
    · obtain rfl : operation = .wait := waited
      have lasting := unclosed .taken (List.mem_append_right _ taken)
      have handle := congrArg Face.handle (waitResult_face outside.toLink e decided)
      change (waitResult outside.toLink e).2.handle.audioSource = _
      have lasting : e.settings.autoClose = false := lasting
      simp only [lasting, Bool.false_eq_true, if_false] at handle
      have same := congrArg Handle.audioSource handle
      exact same
  · have deeds : Deeds e (e.step depth outside operation).2 := by
      refine step_deeds other fun entry member => ?_
      have untaken : entry ≠ .taken := fun same => taken (same ▸ member)
      simp [Entry.frees, untaken, unclosed entry (List.mem_append_right _ member)]
    refine deeds.audioSource.resolve_left ?_
    rintro ⟨o, seen, closes⟩
    have member : Entry.seen ep.operation o ∈ ep.upTo (e.step depth outside operation).2 :=
      Episode.seen_mem_upTo seen
    have lasting := unclosed _ (List.mem_append_left _ member)
    rw [closes ep.operation] at lasting
    cases lasting

/-- Nothing becomes of a source that waits, as long as nothing secures it. -/
theorem step_pending_source (other : ∀ source model, operation ≠ .recognize source model)
    (unsecured : ∀ entry ∈ e.entries depth outside operation, entry.secures e.settings = false)
    (known : e.handle.audioSource = some i) (silent : e.streamed ≠ some i) :
    let later := (e.step depth outside operation).2
    later.handle.audioSource = some i ∧ later.streamed ≠ some i ∧
      .audioClosed i ∉ later.seenSince e := by
  intro later
  let ep := e.episode depth outside operation
  have moves : Moves ep e later := episode_moves depth outside operation e
  have neither (entry : Entry) (member : entry ∈ e.entries depth outside operation) :
      entry.starts e.settings.protocol = false ∧ entry.closes e.settings.autoClose = false := by
    simpa [Entry.secures] using unsecured entry member
  have still : later.handle.audioSource = some i :=
    (step_audioSource other fun entry member => (neither entry member).2).trans known
  refine ⟨still, moves.pending other (fun event brought => ?_) silent still⟩
  obtain ⟨-, brings, opening⟩ := Episode.opening_of_event? brought
  have began : Entry.began operation ∈ e.entries depth outside operation := by
    refine List.mem_append_left _ (List.mem_append_left _ ?_)
    change _ ∈ ep.opening
    rw [opening]
    exact List.mem_singleton_self _
  have unstarted := (neither _ began).1
  have brings : operation.brings? e.settings.protocol = some event := brings
  simpa [Entry.starts, brings] using unstarted

/-- A request to recognize that is turned away does nothing, and nothing is seen of it. -/
theorem entries_turned_away {source : SourceId} {model : LanguageModel}
    (kept : model.usable = false ∨ e.handle.active = true) (settings : Settings) :
    (e.step depth outside (.recognize source model)).2 = e ∧
      ∀ entry ∈ e.entries depth outside (.recognize source model),
        entry.begins = false ∧ entry.secures settings = false := by
  have turnedAway := recognize_turned_away depth outside source kept (e := e)
  refine ⟨congrArg Prod.snd turnedAway, fun entry member => ?_⟩
  have member : entry ∈ [Entry.began (.recognize source model),
      .ended (.recognize source model) (.reply (.failed
        (if model.usable then .activeRecognition else .invalidLanguageModel)))] := by
    simpa [entries, Episode.upTo, Episode.opening, Episode.ending, episode, turnedAway,
      seenSince_self] using member
  cases List.mem_cons.mp member with
  | inl began => exact began ▸ ⟨rfl, rfl⟩
  | inr ended => exact List.mem_singleton.mp ended ▸ ⟨rfl, rfl⟩

theorem not_begins_of_other (other : ∀ source model, operation ≠ .recognize source model)
    {entry : Entry} (member : entry ∈ e.entries depth outside operation) :
    entry.begins = false := by
  cases List.mem_append.mp member with
  | inl member =>
    have unclear := not_clears_of_mem_upTo other false member
    simp only [Entry.clears, Bool.or_eq_false_iff] at unclear
    exact unclear.1.1
  | inr member => exact not_begins_of_mem_ending member

/-- An operation does nothing, or a recognition begins with it, or it is of another kind. -/
theorem step_kinds (depth : Nat) (outside : Outside) (operation : Operation) (e : Engine)
    (settings : Settings) :
    ((e.step depth outside operation).2 = e ∧ ∀ entry ∈ e.entries depth outside operation,
      entry.begins = false ∧ entry.secures settings = false) ∨
    (∃ source model, operation = .recognize source model ∧ model.usable = true ∧
      e.handle.active = false) ∨
    ∀ source model, operation ≠ .recognize source model := by
  by_cases asked : ∃ source model, operation = .recognize source model
  · obtain ⟨source, model, rfl⟩ := asked
    by_cases kept : model.usable = false ∨ e.handle.active = true
    · exact .inl (entries_turned_away kept settings)
    · obtain ⟨usable, idle⟩ : model.usable = true ∧ e.handle.active = false := by simpa using kept
      exact .inr (.inl ⟨source, model, rfl, usable, idle⟩)
  · exact .inr (.inr fun source model same => asked ⟨source, model, same⟩)

/-- A recognition that begins replaces a source that waits. -/
theorem replaced_of_begun {source : SourceId} {model : LanguageModel} {settings : Settings}
    {after : Chronicle} (usable : model.usable = true) (idle : e.handle.active = false)
    (unsecured : ∀ entry ∈ after, entry.secures settings = false) :
    ¬(after ++ e.entries depth outside (.recognize source model)).Unreplaced settings := by
  intro unreplaced
  obtain ⟨entry, more, begins, shape⟩ := entries_of_recognize depth outside source usable idle
  obtain ⟨earlier, member, secures⟩ :=
    unreplaced (after ++ [.began (.recognize source model)]) entry more (by simp [shape]) begins
  cases List.mem_append.mp member with
  | inl member =>
    rw [unsecured earlier member] at secures
    cases secures
  | inr member =>
    obtain rfl := List.mem_singleton.mp member
    cases secures

/-- A recognition that begins takes the place of the source of another one in the handle. -/
theorem step_replaced (depth : Nat) (outside : Outside) {source : SourceId} {model : LanguageModel}
    (usable : model.usable = true) (idle : e.handle.active = false) (another : source ≠ i)
    (silent : e.streamed ≠ some i) :
    let later := (e.step depth outside (.recognize source model)).2
    .audioClosed i ∉ later.seenSince e ∧ ¬later.InHand i := by
  intro later
  let begun := e.onHandle (·.begin source model)
  obtain ⟨more, seen, unclosed⟩ := sendFirst_trace outside.toLink begun
  have face := sendFirst_face outside.toLink begun
  generalize reply : sendFirst outside.toLink begun = answer at seen face
  obtain ⟨failure, reached⟩ := answer
  have handle : reached.handle = e.handle.begin source model := congrArg Face.handle face
  have seen : reached.trace = e.trace ++ more := seen
  have unknown : ¬reached.InHand i := by
    rw [InHand, streamed, handle, not_or]
    exact ⟨by simpa [Handle.begin] using another, silent⟩
  have unseen : .audioClosed i ∉ reached.seenSince e := by
    rw [seenSince_of_trace seen]
    exact unclosed i
  cases failure with
  | none =>
    have came : later = reached := congrArg Prod.snd (recognize_of_sent usable idle reply)
    rw [came]
    exact ⟨unseen, unknown⟩
  | some error =>
    let told := notifyAll outside depth (.error error) reached
    have came : later = told.onHandle fun h => { h.finishRecognition with active := false } :=
      congrArg Prod.snd (recognize_of_unsent usable idle reply)
    have telling : Telling (aside reached) (notifyAll outside depth) :=
      notifyAll_telling outside depth
    have moves : Moves (aside reached) reached told :=
      telling.moves (.error error) reached List.prefix_rfl
    have unasked (model : LanguageModel) : (aside reached).operation ≠ .recognize i model := by
      simp [aside]
    obtain ⟨still, unknown⟩ := moves.unknown unasked unknown
    have grown : e.trace <+: reached.trace := ⟨more, seen.symm⟩
    rw [came]
    refine ⟨?_, unknown⟩
    change _ ∉ told.seenSince e
    rw [seenSince_trans grown moves.grows, List.mem_append, not_or]
    exact ⟨unseen, still⟩

end Steps

/-! ## Runs -/

section Runs

variable {first : Engine} {log before after : Chronicle} {model : LanguageModel} {depth : Nat}
  {outside : Outside} {operation : Operation}

/-- After a request that was accepted the source is that of the recognition, and nothing else has
happened to any source. -/
theorem step_accepted {source : SourceId}
    (accepted : (e.step depth outside (.recognize source model)).1 = .reply .done) :
    let later := (e.step depth outside (.recognize source model)).2
    later.handle.audioSource = some source ∧ later.streamed = e.streamed ∧
      ∀ i, .audioClosed i ∉ later.seenSince e := by
  intro later
  obtain ⟨refused, -⟩ | ⟨-, ⟨-, handle, unclosed⟩ | ⟨⟨reason, failed⟩, -⟩⟩ :=
    recognize_cases depth outside source model e
  · obtain refused | refused := refused
    · cases accepted.symm.trans refused
    · cases accepted.symm.trans refused
  · refine ⟨?_, ?_, unclosed⟩
    · rw [handle]
      rfl
    · rw [streamed, handle]
      rfl
  · cases accepted.symm.trans failed

/-- A recognition is accepted with the last entry of an operation. -/
theorem accepted_last (split : e.entries depth outside operation =
      before ++ .ended (.recognize i model) (.reply .done) :: after) :
    operation = .recognize i model ∧ (e.step depth outside operation).1 = .reply .done ∧
      after = [] := by
  let ep := e.episode depth outside operation
  have member : Entry.ended (.recognize i model) (.reply .done) ∈
      e.entries depth outside operation := by simp [split]
  have unended : Entry.ended (.recognize i model) (.reply .done) ∉
      ep.upTo (e.step depth outside operation).2 := by
    intro member
    obtain same | ⟨o, -, same⟩ := Episode.began_or_seen_of_mem_upTo member
    · cases same
    · cases same
  have ended : Entry.ended (.recognize i model) (.reply .done) ∈ ep.ending :=
    (List.mem_append.mp member).resolve_left unended
  obtain same | ⟨same, -⟩ := Episode.ended_or_taken_of_mem_ending ended
  · obtain ⟨rfl, answered⟩ := Entry.ended.inj same
    refine ⟨rfl, answered.symm, ?_⟩
    have last : e.entries depth outside (.recognize i model) =
        ep.upTo (e.step depth outside (.recognize i model)).2 ++ [.ended _ ep.answer] := rfl
    rw [last] at split
    obtain ⟨-, -, none⟩ | ⟨rest, -, earlier⟩ := Chronicle.split_concat split
    · exact none
    · exact absurd (by rw [earlier]; simp) unended
  · cases same

/-- The source was closed, or it is streamed, or it still waits and nothing has secured it. -/
def Accounted (settings : Settings) (i : SourceId) (e : Engine) (after : Chronicle) : Prop :=
  i ∈ after.closed ∨ e.streamed = some i ∨
    e.handle.audioSource = some i ∧ ∀ entry ∈ after, entry.secures settings = false

theorem Accounted.step (accounted : e.Accounted e.settings i after)
    (unreplaced : (after ++ e.entries depth outside operation).Unreplaced e.settings)
    (threaded : ∀ entry ∈ e.entries depth outside operation, entry.refusesThread i = false) :
    (e.step depth outside operation).2.Accounted e.settings i
      (after ++ e.entries depth outside operation) := by
  have moves := episode_moves depth outside operation e
  have closing (closed : .audioClosed i ∈ (e.step depth outside operation).2.seenSince e) :
      i ∈ (after ++ e.entries depth outside operation).closed := by
    rw [Chronicle.closed_append]
    exact List.mem_append_right _ (mem_closed_entries.mpr closed)
  obtain closed | streams | ⟨known, unsecured⟩ := accounted
  · rw [Accounted, Chronicle.closed_append]
    exact .inl (List.mem_append_left _ closed)
  · cases moves.closed_or (fun move => move.streamed) streams with
    | inl closed => exact .inl (closing closed)
    | inr streams => exact .inr (.inl streams)
  · have waiting (quiet : ∀ entry ∈ e.entries depth outside operation,
        entry.secures e.settings = false) :
        ∀ entry ∈ after ++ e.entries depth outside operation,
          entry.secures e.settings = false := by
      intro entry member
      exact (List.mem_append.mp member).elim (unsecured entry) (quiet entry)
    obtain ⟨same, quiet⟩ | ⟨source, model, rfl, usable, idle⟩ | other :=
      step_kinds depth outside operation e e.settings
    · have known := (congrArg (·.handle.audioSource) same).trans known
      exact .inr (.inr ⟨known, waiting fun entry member => (quiet entry member).2⟩)
    · exact absurd unreplaced (replaced_of_begun usable idle unsecured)
    · by_cases secured : ∃ entry ∈ e.entries depth outside operation,
          entry.secures e.settings = true
      · obtain ⟨entry, member, secures⟩ := secured
        cases step_secured other (.inl known) threaded member secures with
        | inl closed => exact .inl (closing closed)
        | inr streams => exact .inr (.inl streams)
      · have quiet : ∀ entry ∈ e.entries depth outside operation,
            entry.secures e.settings = false := by simpa using secured
        cases moves.closed_or (fun move => move.inHand other) (.inl known) with
        | inl closed => exact .inl (closing closed)
        | inr inHand =>
          cases inHand with
          | inl known => exact .inr (.inr ⟨known, waiting quiet⟩)
          | inr streams => exact .inr (.inl streams)

/-- Unless it is replaced, the source of a recognition that was accepted stays accounted for. -/
theorem Chronicled.accounted (run : Chronicled first e log)
    (split : log = before ++ .ended (.recognize i model) (.reply .done) :: after)
    (unreplaced : after.Unreplaced first.settings)
    (threaded : ∀ entry ∈ after, entry.refusesThread i = false) :
    e.Accounted first.settings i after := by
  induction run generalizing before after with
  | start => simp at split
  | attach source _ earlier => exact earlier split unreplaced threaded
  | @step e log depth outside operation run earlier =>
    obtain ⟨rest, same, rfl⟩ | ⟨rest, -, here⟩ := Chronicle.split_append split
    · have accounted := earlier same (Chronicle.unreplaced_append.mp unreplaced).1
        fun entry member => threaded entry (List.mem_append_left _ member)
      rw [← run.same.1] at accounted unreplaced ⊢
      exact accounted.step unreplaced fun entry member =>
        threaded entry (List.mem_append_right _ member)
    · obtain ⟨rfl, accepted, rfl⟩ := accepted_last here
      exact .inr (.inr ⟨(step_accepted accepted).1, by simp⟩)

theorem given_of_recognize : i ∈ (e.entries depth outside (.recognize i model)).given :=
  List.mem_cons_self ..

theorem not_recognize_of_ungiven (ungiven : i ∉ (e.entries depth outside operation).given)
    (model : LanguageModel) : operation ≠ .recognize i model := by
  rintro rfl
  exact ungiven given_of_recognize

theorem unclosed_entries (unclosed : i ∉ log.closed)
    (unseen : .audioClosed i ∉ (e.step depth outside operation).2.seenSince e) :
    i ∉ (log ++ e.entries depth outside operation).closed := by
  rw [Chronicle.closed_append, List.mem_append, mem_closed_entries, not_or]
  exact ⟨unclosed, unseen⟩

theorem step_unknown (ungiven : i ∉ (e.entries depth outside operation).given)
    (before : ¬e.InHand i ∧ i ∉ log.closed) :
    ¬(e.step depth outside operation).2.InHand i ∧
      i ∉ (log ++ e.entries depth outside operation).closed := by
  obtain ⟨unseen, unknown⟩ := (episode_moves depth outside operation e).unknown
    (not_recognize_of_ungiven ungiven) before.1
  exact ⟨unknown, unclosed_entries before.2 unseen⟩

/-- Nothing happens to a source that was never given. -/
theorem Chronicled.unknown (run : Chronicled first e log) (new : first.New)
    (ungiven : i ∉ log.given) : ¬e.InHand i ∧ i ∉ log.closed := by
  induction run with
  | start => exact ⟨not_inHand_of_forgotten new.handle, by simp [Chronicle.closed]⟩
  | attach source _ before => exact before ungiven
  | step depth outside operation _ before =>
    rw [Chronicle.given_append, List.mem_append, not_or] at ungiven
    exact step_unknown ungiven.2 (before ungiven.1)

theorem Chronicled.given_of_accepted (run : Chronicled first e log)
    (member : .ended (.recognize i model) (.reply .done) ∈ log) : i ∈ log.given := by
  induction run with
  | start => cases member
  | attach source _ before => exact before member
  | step depth outside operation _ before =>
    rw [Chronicle.given_append, List.mem_append]
    cases List.mem_append.mp member with
    | inl member => exact .inl (before member)
    | inr member =>
      obtain ⟨earlier, later, split⟩ := List.append_of_mem member
      obtain ⟨rfl, -, -⟩ := accepted_last split
      exact .inr given_of_recognize

/-- The source waits until something secures it, and is lost with its place in the handle. -/
structure Adrift (settings : Settings) (i : SourceId) (e : Engine) (log after : Chronicle) :
    Prop where
  waiting : after.Unreplaced settings → (∀ entry ∈ after, entry.secures settings = false) →
    e.handle.audioSource = some i ∧ e.streamed ≠ some i ∧ i ∉ log.closed
  lost : ¬after.Unreplaced settings → ¬e.InHand i ∧ i ∉ log.closed

/-- While the source waits it is replaced, or it is secured, or it goes on waiting. -/
theorem Adrift.step_waiting (unreplaced : after.Unreplaced e.settings)
    (unsecured : ∀ entry ∈ after, entry.secures e.settings = false)
    (known : e.handle.audioSource = some i) (silent : e.streamed ≠ some i)
    (unclosed : i ∉ log.closed) (ungiven : i ∉ (e.entries depth outside operation).given) :
    (e.step depth outside operation).2.Adrift e.settings i
      (log ++ e.entries depth outside operation) (after ++ e.entries depth outside operation) := by
  have going (unbegun : ∀ entry ∈ e.entries depth outside operation, entry.begins = false) :
      (after ++ e.entries depth outside operation).Unreplaced e.settings :=
    Chronicle.unreplaced_append.mpr
      ⟨unreplaced, .inr (Chronicle.unreplaced_of_not_begins unbegun)⟩
  obtain ⟨same, quiet⟩ | ⟨source, model, rfl, usable, idle⟩ | other :=
    step_kinds depth outside operation e e.settings
  · have still : i ∉ (log ++ e.entries depth outside operation).closed :=
      unclosed_entries unclosed (by rw [same]; simp [seenSince_self])
    refine ⟨fun _ _ => ⟨?_, ?_, still⟩, fun replaced =>
      absurd (going fun entry member => (quiet entry member).1) replaced⟩
    · rw [same]
      exact known
    · rw [same]
      exact silent
  · have another : source ≠ i := fun same => not_recognize_of_ungiven ungiven model (same ▸ rfl)
    obtain ⟨unseen, unknown⟩ :=
      step_replaced depth outside usable idle another silent
    exact ⟨fun unreplaced => absurd unreplaced (replaced_of_begun usable idle unsecured),
      fun _ => ⟨unknown, unclosed_entries unclosed unseen⟩⟩
  · refine ⟨fun _ quiet => ?_, fun replaced =>
      absurd (going fun entry member => not_begins_of_other other member) replaced⟩
    obtain ⟨known, silent, unseen⟩ := step_pending_source other
      (fun entry member => quiet entry (List.mem_append_right _ member)) known silent
    exact ⟨known, silent, unclosed_entries unclosed unseen⟩

theorem Adrift.step (adrift : e.Adrift e.settings i log after)
    (ungiven : i ∉ (e.entries depth outside operation).given) :
    (e.step depth outside operation).2.Adrift e.settings i
      (log ++ e.entries depth outside operation) (after ++ e.entries depth outside operation) := by
  by_cases unreplaced : after.Unreplaced e.settings
  · by_cases secured : ∃ entry ∈ after, entry.secures e.settings = true
    · -- What is secured is not replaced any more, and does not wait.
      refine ⟨fun _ quiet => ?_, fun replaced => ?_⟩
      · obtain ⟨entry, member, secures⟩ := secured
        rw [quiet entry (List.mem_append_left _ member)] at secures
        cases secures
      · exact absurd (Chronicle.unreplaced_append.mpr ⟨unreplaced, .inl secured⟩) replaced
    · have unsecured : ∀ entry ∈ after, entry.secures e.settings = false := by
        simpa using secured
      obtain ⟨known, silent, unclosed⟩ := adrift.waiting unreplaced unsecured
      exact .step_waiting unreplaced unsecured known silent unclosed ungiven
  · have replaced : ¬(after ++ e.entries depth outside operation).Unreplaced e.settings :=
      fun all => unreplaced (Chronicle.unreplaced_append.mp all).1
    exact ⟨fun all => absurd all replaced, fun _ => step_unknown ungiven (adrift.lost unreplaced)⟩

/-- A source that is given once is lost when it is replaced. -/
theorem Chronicled.adrift (run : Chronicled first e log) (new : first.New)
    (split : log = before ++ .ended (.recognize i model) (.reply .done) :: after)
    (once : log.given.count i = 1) : e.Adrift first.settings i log after := by
  induction run generalizing before after with
  | start => simp at split
  | attach source _ earlier =>
    obtain ⟨waiting, lost⟩ := earlier split once
    exact ⟨waiting, lost⟩
  | @step e log depth outside operation run earlier =>
    rw [Chronicle.given_append, List.count_append] at once
    obtain ⟨rest, same, rfl⟩ | ⟨rest, -, here⟩ := Chronicle.split_append split
    · have accepted : .ended (.recognize i model) (.reply .done) ∈ log := by simp [same]
      have given : i ∈ log.given := run.given_of_accepted accepted
      have positive := List.count_pos_iff.mpr given
      have ungiven : i ∉ (e.entries depth outside operation).given :=
        List.count_eq_zero.mp (by omega)
      have adrift := earlier same (by omega)
      rw [← run.same.1] at adrift ⊢
      exact adrift.step ungiven
    · obtain ⟨rfl, accepted, rfl⟩ := accepted_last here
      have given : i ∈ (e.entries depth outside (.recognize i model)).given := given_of_recognize
      have positive := List.count_pos_iff.mpr given
      have ungiven : i ∉ log.given := List.count_eq_zero.mp (by omega)
      obtain ⟨unknown, unclosed⟩ := run.unknown new ungiven
      obtain ⟨known, same, unseen⟩ := step_accepted accepted
      refine ⟨fun _ _ => ⟨known, ?_, unclosed_entries unclosed (unseen i)⟩, fun replaced => ?_⟩
      · rw [same]
        exact (not_or.mp unknown).2
      · exact absurd Chronicle.always_nil replaced

/-- In the end, after a close, the source of every recognition that was accepted has been closed,
unless the next recognition began before the source was secured.  A source that was given only once
has then not been closed at all.  A source that the system refuses a thread is not secured by the
start of its recognition, and nothing is said of it here. -/
theorem closed_unless_replaced (new : first.New) (run : Chronicled first e log) (depth : Nat)
    (outside : Outside) :
    let whole := log ++ e.entries depth outside .close
    ∀ (before : Chronicle) (i : SourceId) (model : LanguageModel) (after : Chronicle),
      whole = before ++ .ended (.recognize i model) (.reply .done) :: after →
      (after.Unreplaced first.settings → (∀ entry ∈ after, entry.refusesThread i = false) →
        i ∈ after.closed) ∧
      (¬after.Unreplaced first.settings → whole.given.count i = 1 → i ∉ whole.closed) := by
  intro whole before i model after split
  have run : Chronicled first (e.step depth outside .close).2 whole :=
    .step depth outside .close run
  refine ⟨fun unreplaced threaded => ?_,
    fun replaced once => ((run.adrift new split once).lost replaced).2⟩
  have forgotten : (e.step depth outside .close).2.handle = {} := close_handle outside.toLink e
  obtain closed | streams | ⟨known, -⟩ := run.accounted split unreplaced threaded
  · exact closed
  · exact absurd (.inr streams) (not_inHand_of_forgotten forgotten)
  · exact absurd (.inl known) (not_inHand_of_forgotten forgotten)

/-- The first recognition has started before it is over, so its source is closed when the outcome is
taken; the close at the end closes that of the second one. -/
theorem closed_unless_replaced_streamed :
    let outside : Outside := { Link.reliable with }
    let started := Operation.message
      (utf8 "ASR 2.4 RESPONSE\r\nMethod: START_RECOGNITION\r\nResult: SUCCESS\r\n\r\n")
    let silence := Operation.message
      (utf8 "ASR 2.4 RECOGNITION_RESULT\r\nResult-Status: NO_SPEECH\r\n\r\n")
    let recognize (i : SourceId) := Operation.recognize i (.ofUri "builtin:slm")
    let known := ((sample.attach (.own { reads := [] })).2.attach (.own { reads := [] })).2
    let begun := (known.step 0 outside (recognize 0)).2
    let streaming := (begun.step 0 outside started).2
    let ended := (streaming.step 0 outside silence).2
    let taken := (ended.step 0 outside .wait).2
    let again := (taken.step 0 outside (recognize 1)).2
    let later := begun.entries 0 outside started ++ streaming.entries 0 outside silence ++
      ended.entries 0 outside .wait ++ taken.entries 0 outside (recognize 1) ++
      again.entries 0 outside .close
    later.Unreplaced sample.settings ∧ 0 ∈ later.closed := by
  intro outside started silence recognize known begun streaming ended taken again later
  have run : Chronicled sample begun _ :=
    ((Chronicled.start.attach _).attach _).step 0 outside (recognize 0)
  have run := ((run.step 0 outside started).step 0 outside silence).step 0 outside .wait
  have run : Chronicled sample again _ := run.step 0 outside (recognize 1)
  have unreplaced : later.Unreplaced sample.settings := by decide +kernel
  have closes := closed_unless_replaced sample_new run 0 outside
    [.began (recognize 0), .seen (recognize 0) (.opened sample.endpoint),
      .seen (recognize 0) (.sent (Request.createSession sample.settings.userAgent))]
    0 (.ofUri "builtin:slm") later (by decide +kernel)
  exact ⟨unreplaced, closes.1 unreplaced (by decide +kernel)⟩

/-- The first recognition is over before it has started, and the next one takes the place of its
source. -/
theorem unclosed_of_replaced :
    let outside : Outside := { Link.reliable with }
    let silence := Operation.message
      (utf8 "ASR 2.4 RECOGNITION_RESULT\r\nResult-Status: NO_SPEECH\r\n\r\n")
    let recognize (i : SourceId) := Operation.recognize i (.ofUri "builtin:slm")
    let known := ((sample.attach (.own { reads := [] })).2.attach (.own { reads := [] })).2
    let begun := (known.step 0 outside (recognize 0)).2
    let ended := (begun.step 0 outside silence).2
    let taken := (ended.step 0 outside .wait).2
    let again := (taken.step 0 outside (recognize 1)).2
    let whole := known.entries 0 outside (recognize 0) ++ begun.entries 0 outside silence ++
      ended.entries 0 outside .wait ++ taken.entries 0 outside (recognize 1) ++
      again.entries 0 outside .close
    Entry.ended (recognize 0) (.reply .done) ∈ whole ∧
      Entry.ended (recognize 1) (.reply .done) ∈ whole ∧ whole.closed = [1] := by
  decide +kernel

end Runs

end Engine

end SpeechClient
