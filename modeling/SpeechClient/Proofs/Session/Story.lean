import Mathlib.Data.List.Perm.Basic
import SpeechClient.Proofs.Session.Deeds

/-!
# What listeners are told in turn

Listeners are told one after another, and each may use the recognizer before the next one is told.
All that the listeners are told of meanwhile is that a cancel of one of them was refused, and the
later ones hear of that before they hear of the matter itself.  So all listeners are told the same,
but not in the same order.

- `Story`: what each listener hears, with what callbacks have the others hear in between.
- `Story.perm`, `Story.filter_eq`, `Story.eq_of_adjacent`: what any two of them hear alike.
- `Notification.refusedIn`: a cancel inside a callback was refused with this failure.
- `Engine.Relates`: the listeners have been told a story on the way to a later state.
- `Engine.notifyAll_relates`: nothing else is told with a matter.
-/

namespace SpeechClient

/-- What each of so many listeners hears.  A matter is told to all of them in turn, and what the
reaction of each brings about is told before the next one hears of the matter; listeners that do not
act bring about nothing. -/
inductive Story (listeners : Nat) (acts : Nat → Prop) (aside : Notification → Prop) :
    (Nat → List Notification) → Prop where
  | nil : Story listeners acts aside fun _ => []
  | append {first later : Nat → List Notification} : Story listeners acts aside first →
      Story listeners acts aside later → Story listeners acts aside fun i => first i ++ later i
  | told (n : Notification) (asides : Nat → Nat → List Notification) :
      (∀ l < listeners, Story listeners acts aside (asides l)) →
      (∀ l < listeners, ∀ i, ∀ m ∈ asides l i, aside m) →
      (∀ l < listeners, ¬acts l → asides l = fun _ => []) →
      Story listeners acts aside fun i =>
        (List.range listeners).flatMap fun l => (if l = i then [n] else []) ++ asides l i

namespace Story

variable {listeners i j : Nat} {acts : Nat → Prop} {aside : Notification → Prop}
  {heard : Nat → List Notification}

theorem flatMap_range_split (a : Nat → List Notification) (bound : i ≤ listeners) :
    (List.range listeners).flatMap a =
      (List.range i).flatMap a ++ (List.range (listeners - i)).flatMap fun l => a (i + l) := by
  obtain ⟨rest, rfl⟩ := Nat.exists_eq_add_of_le bound
  rw [Nat.add_sub_cancel_left, List.range_add, List.flatMap_append, List.flatMap_map]

/-- Each listener hears of the matter itself once, between what came of the turns before its own and
what comes of its own and of those after it. -/
theorem flatMap_insert (n : Notification) (a : Nat → List Notification) (bound : i < listeners) :
    ((List.range listeners).flatMap fun l => (if l = i then [n] else []) ++ a l) =
      (List.range i).flatMap a ++
        n :: (List.range (listeners - i)).flatMap fun l => a (i + l) := by
  have before : ((List.range i).flatMap fun l => (if l = i then [n] else []) ++ a l) =
      (List.range i).flatMap a := by
    refine List.flatMap_congr fun l member => ?_
    have earlier : l ≠ i := Nat.ne_of_lt (List.mem_range.mp member)
    rw [if_neg earlier, List.nil_append]
  obtain ⟨rest, remaining⟩ := Nat.exists_eq_add_of_lt (Nat.sub_pos_of_lt bound)
  rw [flatMap_range_split _ bound.le, before, remaining, List.range_succ_eq_map]
  simp [List.flatMap_map]

theorem mono {more : Notification → Prop} (weaker : ∀ n, aside n → more n)
    (story : Story listeners acts aside heard) : Story listeners acts more heard := by
  induction story with
  | nil => exact .nil
  | append _ _ first later => exact .append first later
  | told n asides _ only passive stories =>
    exact .told n asides stories (fun l bound i m member => weaker m (only l bound i m member))
      passive

/-- All listeners hear the same, in some order. -/
theorem perm (story : Story listeners acts aside heard) (first : i < listeners)
    (second : j < listeners) : (heard i).Perm (heard j) := by
  induction story with
  | nil => exact .refl _
  | append _ _ one two => exact one.append two
  | told n asides _ _ _ alike =>
    -- The matter is moved to the front, whoever hears it; the asides are the same for all.
    have apart (i : Nat) (bound : i < listeners) :
        ((List.range listeners).flatMap fun l => (if l = i then [n] else []) ++ asides l i).Perm
          (n :: (List.range listeners).flatMap (asides · i)) := by
      rw [flatMap_insert n _ bound, flatMap_range_split _ bound.le]
      exact List.perm_middle
    have same : ((List.range listeners).flatMap (asides · i)).Perm
        ((List.range listeners).flatMap (asides · j)) :=
      List.Perm.flatMap_left _ fun l member => alike l (List.mem_range.mp member)
    exact (apart i first).trans ((same.cons n).trans (apart j second).symm)

/-- Apart from what callbacks bring about they hear it in the same order. -/
theorem filter_eq {plain : Notification → Bool} (others : ∀ n, aside n → plain n = false)
    (story : Story listeners acts aside heard) (first : i < listeners) (second : j < listeners) :
    (heard i).filter plain = (heard j).filter plain := by
  induction story with
  | nil => rfl
  | append _ _ one two => simp only [List.filter_append, one, two]
  | told n asides _ only _ _ =>
    -- All that is heard around the matter itself are asides.
    have matter (i : Nat) (bound : i < listeners) :
        ((List.range listeners).flatMap fun l =>
          (if l = i then [n] else []) ++ asides l i).filter plain = [n].filter plain := by
      have dropped (l : Nat) (within : l < listeners) : (asides l i).filter plain = [] := by
        refine List.filter_eq_nil_iff.mpr fun m told => ?_
        rw [others m (only l within i m told)]
        exact Bool.false_ne_true
      have before : ((List.range i).flatMap (asides · i)).filter plain = [] := by
        rw [List.filter_flatMap]
        refine List.flatMap_eq_nil_iff.mpr fun l member => dropped l ?_
        exact (List.mem_range.mp member).trans bound
      have behind :
          ((List.range (listeners - i)).flatMap fun l => asides (i + l) i).filter plain = [] := by
        rw [List.filter_flatMap]
        refine List.flatMap_eq_nil_iff.mpr fun l member => dropped _ ?_
        have := List.mem_range.mp member
        omega
      rw [flatMap_insert n _ bound, List.filter_append, before, List.nil_append,
        List.filter_cons, List.filter_cons, behind, List.filter_nil]
    exact (matter i first).trans (matter j second).symm

/-- Two listeners hear it in the same order if none that acts has its turn between theirs. -/
theorem eq_of_adjacent (story : Story listeners acts aside heard) (first : i < listeners)
    (second : j < listeners) (adjacent : ∀ l, acts l → (i ≤ l ↔ j ≤ l)) : heard i = heard j := by
  wlog sooner : i ≤ j generalizing i j
  · exact (this second first (fun l acting => (adjacent l acting).symm)
      (Nat.le_of_not_le sooner)).symm
  induction story with
  | nil => rfl
  | append _ _ one two => simp only [one, two]
  | told n asides _ _ passive alike =>
    obtain ⟨between, rfl⟩ := Nat.exists_eq_add_of_le sooner
    -- The turns from the one to the other bring nothing about.
    have silent : ((List.range between).flatMap fun l => asides (i + l) (i + between)) = [] := by
      refine List.flatMap_eq_nil_iff.mpr fun l member => ?_
      have within := List.mem_range.mp member
      have still : ¬acts (i + l) := fun acting => absurd (adjacent _ acting) (by omega)
      rw [passive (i + l) (by omega) still]
    have before : (List.range (i + between)).flatMap (asides · (i + between)) =
        (List.range i).flatMap (asides · (i + between)) := by
      rw [flatMap_range_split _ (Nat.le_add_right i between), Nat.add_sub_cancel_left, silent,
        List.append_nil]
    have behind : ((List.range (listeners - i)).flatMap fun l => asides (i + l) (i + between)) =
        (List.range (listeners - (i + between))).flatMap fun l =>
          asides (i + between + l) (i + between) := by
      rw [flatMap_range_split _ (show between ≤ listeners - i by omega), silent, List.nil_append,
        Nat.sub_sub]
      simp only [Nat.add_assoc]
    calc ((List.range listeners).flatMap fun l => (if l = i then [n] else []) ++ asides l i)
        = (List.range listeners).flatMap fun l =>
            (if l = i then [n] else []) ++ asides l (i + between) :=
          List.flatMap_congr fun l member => by rw [alike l (List.mem_range.mp member)]
      _ = (List.range i).flatMap (asides · (i + between)) ++
            n :: (List.range (listeners - i)).flatMap fun l => asides (i + l) (i + between) :=
          flatMap_insert n _ first
      _ = (List.range (i + between)).flatMap (asides · (i + between)) ++
            n :: (List.range (listeners - (i + between))).flatMap fun l =>
              asides (i + between + l) (i + between) := by rw [before, behind]
      _ = (List.range listeners).flatMap fun l =>
            (if l = i + between then [n] else []) ++ asides l (i + between) :=
          (flatMap_insert n _ second).symm

end Story

/-- A cancel inside a callback was refused with this failure. -/
def Notification.refusedIn (seen : List Observation) : Notification → Bool
  | .error failure => decide (.acted .cancel (.failed failure) ∈ seen)
  | _ => false

theorem Notification.refusedIn_mono {seen more : List Observation} (within : seen ⊆ more)
    {n : Notification} (refused : n.refusedIn seen = true) : n.refusedIn more = true := by
  cases n with
  | error failure =>
    have member : .acted .cancel (.failed failure) ∈ seen := of_decide_eq_true refused
    exact decide_eq_true (within member)
  | _ => cases refused

namespace Engine

def heardSince (e start : Engine) (listener : Nat) : List Notification :=
  (e.seenSince start).filterMap (·.heardBy listener)

variable {acts : Nat → Prop} {own : Notification → Prop} {e e' e'' : Engine}

theorem observe_trace (o : Observation) (e : Engine) : (e.observe o).trace = e.trace ++ [o] := rfl

theorem heardSince_trans (first : e.trace <+: e'.trace) (second : e'.trace <+: e''.trace)
    (i : Nat) : e''.heardSince e i = e'.heardSince e i ++ e''.heardSince e' i := by
  unfold heardSince
  rw [seenSince_trans first second, List.filterMap_append]

theorem told_eq_append (grows : e.trace <+: e'.trace) (i : Nat) :
    e'.told i = e.told i ++ e'.heardSince e i := by
  obtain ⟨more, seen⟩ := grows
  simp [told, heardSince, seenSince_of_trace seen.symm, ← seen]

/-- The listeners have been told a story on the way to a later state: of what is their own matter
here, and of cancels that were refused inside callbacks. -/
structure Relates (acts : Nat → Prop) (own : Notification → Prop) (e e' : Engine) : Prop where
  listeners : e'.listeners = e.listeners
  grows : e.trace <+: e'.trace
  story : Story e.listeners acts (fun n => n.refusedIn (e'.seenSince e) = true) (e'.heardSince e)
  matters : ∀ i, ∀ n ∈ e'.heardSince e i, own n ∨ n.refusedIn (e'.seenSince e) = true

namespace Relates

/-- Something else happens, and nobody is told. -/
theorem of_silent (listeners : e'.listeners = e.listeners) (grows : e.trace <+: e'.trace)
    (silent : e'.told = e.told) : Relates acts own e e' := by
  have unheard : e'.heardSince e = fun _ => [] := by
    funext i
    have told := told_eq_append grows i
    rw [silent] at told
    exact List.self_eq_append_right.mp told
  refine ⟨listeners, grows, ?_, fun i n member => ?_⟩
  · rw [unheard]
    exact .nil
  · rw [unheard] at member
    cases member

theorem of_face {handle : Handle} {isOpen : Bool}
    (face : e'.face = { e.face with handle, isOpen }) (grows : e.trace <+: e'.trace) :
    Relates acts own e e' :=
  .of_silent (congrArg Face.listeners face) grows (congrArg Face.told face)

theorem refl (e : Engine) : Relates acts own e e :=
  .of_silent rfl List.prefix_rfl rfl

theorem of_eq (same : e' = e) : Relates acts own e e' := by
  rw [same]
  exact .refl e

theorem trans (first : Relates acts own e e') (second : Relates acts own e' e'') :
    Relates acts own e e'' := by
  have seen := seenSince_trans first.grows second.grows
  have sooner {n : Notification} (refused : n.refusedIn (e'.seenSince e) = true) :
      n.refusedIn (e''.seenSince e) = true :=
    Notification.refusedIn_mono (seen ▸ List.subset_append_left _ _) refused
  have later {n : Notification} (refused : n.refusedIn (e''.seenSince e') = true) :
      n.refusedIn (e''.seenSince e) = true :=
    Notification.refusedIn_mono (seen ▸ List.subset_append_right _ _) refused
  have heard := heardSince_trans first.grows second.grows
  refine ⟨second.listeners.trans first.listeners, first.grows.trans second.grows, ?_, ?_⟩
  · rw [funext heard]
    exact .append (first.story.mono fun _ => sooner)
      (first.listeners ▸ second.story.mono fun _ => later)
  · intro i n member
    rw [heard, List.mem_append] at member
    cases member with
    | inl member => exact (first.matters i n member).imp_right sooner
    | inr member => exact (second.matters i n member).imp_right later

theorem mono {more : Notification → Prop} (weaker : ∀ n, own n → more n)
    (relates : Relates acts own e e') : Relates acts more e e' :=
  ⟨relates.listeners, relates.grows, relates.story,
    fun i n member => (relates.matters i n member).imp_left (weaker n)⟩

theorem observe {o : Observation} (silent : ∀ i, o.heardBy i = none) (e : Engine) :
    Relates acts own e (e.observe o) :=
  .of_face (observe_face e silent) (List.prefix_append _ _)

end Relates

/-! ## What nobody is told of -/

section Silent

variable (link : Link)

theorem send_relates (frame : Wire.Frame) (e : Engine) :
    Relates acts own e (send link frame e).2 := by
  unfold send
  split
  · exact .observe (fun _ => rfl) e
  · exact .observe (fun _ => rfl) e

theorem stop_relates (s : Streamer) (e : Engine) : Relates acts own e (stop s e) :=
  .of_face (stop_face e s) (List.prefix_append _ _)

theorem stopStreamer_relates (e : Engine) : Relates acts own e e.stopStreamer :=
  .of_face (stopStreamer_face e) ⟨_, (stopStreamer_trace e).symm⟩

theorem close_relates (e : Engine) : Relates acts own e (close link e) := by
  have moves : Moves (aside e) e (close link e) := close_moves link e
  exact .of_face (close_face link e) moves.grows

theorem autoClose_relates (e : Engine) : Relates acts own e (autoClose link e) := by
  unfold autoClose
  split
  · exact close_relates link e
  · exact .refl e

theorem markCanceled_relates (e : Engine) : Relates acts own e e.markCanceled := by
  exact .of_face (markCanceled_face e) (markCanceled_trace e ▸ List.prefix_rfl)

theorem waitResult_relates (e : Engine) : Relates acts own e (waitResult link e).2 := by
  unfold waitResult
  split
  · exact .refl e
  · extract_lets h taken stopped closed
    have taking : Relates acts own e taken := .of_face (onHandle_face e _) List.prefix_rfl
    have stopping : Relates acts own e stopped := by
      unfold stopped
      split
      · exact taking.trans (stop_relates _ taken)
      · exact taking
    have closing : Relates acts own e closed := stopping.trans (autoClose_relates link stopped)
    split
    · exact closing
    · exact closing

end Silent

/-! ## Callbacks -/

section Callbacks

variable (link : Link) {notify : Notify} (telling : ∀ n e, Relates acts (· = n) e (notify n e))
include telling

theorem fail_relates (error : RecognitionError) (e : Engine) :
    Relates acts (· = .error error) e (fail notify error e) :=
  (telling (.error error) e).trans (.of_face (onHandle_face _ _) List.prefix_rfl)

/-- A cancel tells of nothing but its own failure. -/
theorem cancel_relates (e : Engine) :
    Relates acts (fun n => ∃ error, (cancel link notify e).1 = some error ∧ n = .error error) e
      (cancel link notify e).2 := by
  unfold cancel
  extract_lets wasOpen stopped
  have stopping {own : Notification → Prop} : Relates acts own e stopped :=
    (markCanceled_relates e).trans (stopStreamer_relates _)
  have asking {own : Notification → Prop} : Relates acts own e
      (if wasOpen then send link Request.cancelRecognition stopped else (none, stopped)).2 := by
    split
    · exact stopping.trans (send_relates link _ stopped)
    · exact stopping
  generalize (if wasOpen then send link Request.cancelRecognition stopped
    else (none, stopped)) = answer at asking
  obtain ⟨failure, asked⟩ := answer
  cases failure with
  | some error =>
    exact asking.trans ((fail_relates telling error asked).mono fun n same => ⟨error, rfl, same⟩)
  | none => exact asking.trans (autoClose_relates link asked)

theorem act_relates (action : Action) (e : Engine) :
    Relates acts (fun _ => False) e (act link notify action e).2 := by
  have replying {own : Notification → Prop} (reply : Reply) (e : Engine) :
      Relates acts own e (e.observe (.acted action reply)) := .observe (fun _ => rfl) e
  cases action with
  | close => exact (close_relates link e).trans (replying _ _)
  | cancel =>
    have acted : (act link notify .cancel e).2 = (cancel link notify e).2.observe
        (.acted .cancel (replyOf (cancel link notify e).1)) := rfl
    rw [acted]
    have canceling := (cancel_relates link telling e).trans
      (replying (replyOf (cancel link notify e).1) (cancel link notify e).2)
    -- The callback hears of the failure next, and with that it counts as one of a refused cancel.
    refine ⟨canceling.listeners, canceling.grows, canceling.story, fun i n member => .inr ?_⟩
    obtain ⟨error, failed, rfl⟩ | refused := canceling.matters i n member
    · rw [failed, seenSince_observe (cancel_relates link telling e).grows]
      exact decide_eq_true (List.mem_append_right _ (List.mem_singleton_self _))
    · exact refused
  | startTimers => exact (send_relates link _ e).trans (replying _ _)
  | status => exact replying _ e

theorem react_relates (reaction : Reaction) (e : Engine) :
    Relates acts (fun _ => False) e (react link notify reaction e) := by
  induction reaction generalizing e with
  | done => exact .refl e
  | act action next after => exact (act_relates link telling action e).trans (after _ _)

end Callbacks

/-! ## One listener after another -/

/-- So many listeners have been told of a matter and have had their turn after it. -/
def tellInTurn (turn : Nat → Engine → Engine) (n : Notification) (e : Engine) (count : Nat) :
    Engine :=
  (List.range count).foldl (fun e l => turn l (e.observe (.notified l n))) e

/-- What the turn of one of them has a listener hear. -/
def asides (turn : Nat → Engine → Engine) (n : Notification) (e : Engine) (l : Nat) :
    Nat → List Notification :=
  (tellInTurn turn n e (l + 1)).heardSince ((tellInTurn turn n e l).observe (.notified l n))

section InTurn

variable {turn : Nat → Engine → Engine} (n : Notification)
  (aside : ∀ l e, Relates acts (fun _ => False) e (turn l e)) (e : Engine)

theorem tellInTurn_succ (turn : Nat → Engine → Engine) (count : Nat) :
    tellInTurn turn n e (count + 1) =
      turn count ((tellInTurn turn n e count).observe (.notified count n)) := by
  simp only [tellInTurn, List.range_succ, List.foldl_append, List.foldl_cons, List.foldl_nil]

include aside

theorem inTurn_relates (l : Nat) : Relates acts (fun _ => False)
    ((tellInTurn turn n e l).observe (.notified l n)) (tellInTurn turn n e (l + 1)) := by
  rw [tellInTurn_succ]
  exact aside l _

theorem tellInTurn_listeners (count : Nat) :
    (tellInTurn turn n e count).listeners = e.listeners := by
  induction count with
  | zero => rfl
  | succ count before => exact (inTurn_relates n aside e count).listeners.trans before

theorem tellInTurn_grows {count later : Nat} (sooner : count ≤ later) :
    (tellInTurn turn n e count).trace <+: (tellInTurn turn n e later).trace := by
  induction later, sooner using Nat.le_induction with
  | base => exact List.prefix_rfl
  | succ later _ before =>
    exact before.trans ((List.prefix_append _ _).trans (inTurn_relates n aside e later).grows)

theorem tellInTurn_since (count : Nat) : e.trace <+: (tellInTurn turn n e count).trace :=
  tellInTurn_grows n aside e (Nat.zero_le count)

theorem tellInTurn_heardSince (count i : Nat) : (tellInTurn turn n e count).heardSince e i =
    (List.range count).flatMap fun l => (if l = i then [n] else []) ++ asides turn n e l i := by
  induction count with
  | zero => simp [tellInTurn, heardSince, seenSince_self]
  | succ count before =>
    have told : (tellInTurn turn n e count).trace <+:
        ((tellInTurn turn n e count).observe (.notified count n)).trace := List.prefix_append _ _
    have now : ((tellInTurn turn n e count).observe (.notified count n)).heardSince
        (tellInTurn turn n e count) i = if count = i then [n] else [] := by
      simp only [heardSince, seenSince_of_trace (observe_trace _ _)]
      split
      next same => simp [Observation.heardBy, same]
      next other => simp [Observation.heardBy, other]
    have turned := inTurn_relates n aside e count
    rw [heardSince_trans (tellInTurn_since n aside e count) (told.trans turned.grows),
      heardSince_trans told turned.grows, before, now, List.range_succ, List.flatMap_append,
      List.flatMap_singleton]
    rfl

/-- What is refused in the turn of one of them is refused on the way. -/
theorem refusedIn_of_turn {l count : Nat} (within : l < count) {m : Notification}
    (refused : m.refusedIn ((tellInTurn turn n e (l + 1)).seenSince
      ((tellInTurn turn n e l).observe (.notified l n))) = true) :
    m.refusedIn ((tellInTurn turn n e count).seenSince e) = true := by
  refine Notification.refusedIn_mono (fun o seen => ?_) refused
  refine mem_seenSince_of_grown (tellInTurn_grows n aside e within) ?_
  rw [seenSince_trans ((tellInTurn_since n aside e l).trans (List.prefix_append _ _))
    (inTurn_relates n aside e l).grows]
  exact List.mem_append_right _ seen

/-- All are told of a matter, and what each does then is an aside. -/
theorem tellInTurn_relates (passive : ∀ l, ¬acts l → ∀ e, turn l e = e) :
    Relates acts (· = n) e (tellInTurn turn n e e.listeners) := by
  have turned (l : Nat) := inTurn_relates n aside e l
  have refused (l : Nat) (within : l < e.listeners) (i : Nat) (m : Notification)
      (member : m ∈ asides turn n e l i) :
      m.refusedIn ((tellInTurn turn n e e.listeners).seenSince e) = true :=
    refusedIn_of_turn n aside e within (((turned l).matters i m member).resolve_left id)
  have still (l : Nat) (quiet : ¬acts l) : asides turn n e l = fun _ => [] := by
    unfold asides heardSince
    rw [tellInTurn_succ, passive l quiet, seenSince_self]
    rfl
  have heard := tellInTurn_heardSince n aside e e.listeners
  refine ⟨tellInTurn_listeners n aside e _, tellInTurn_since n aside e _, ?_, fun i m member => ?_⟩
  · rw [funext heard]
    refine .told n (asides turn n e) (fun l within => ?_) refused fun l _ => still l
    have story := (turned l).story.mono fun _ => refusedIn_of_turn n aside e within
    rwa [show ((tellInTurn turn n e l).observe (.notified l n)).listeners = e.listeners from
      tellInTurn_listeners n aside e l] at story
  · rw [heard, List.mem_flatMap] at member
    obtain ⟨l, within, member⟩ := member
    cases List.mem_append.mp member with
    | inl own =>
      split at own
      · exact .inl (List.mem_singleton.mp own)
      · cases own
    | inr member => exact .inr (refused l (List.mem_range.mp within) i m member)

end InTurn

/-- Listeners that never act are those without a reaction. -/
theorem notifyAll_relates {outside : Outside}
    (quiet : ∀ l, ¬acts l → ∀ n, outside.reaction l n = .done) (depth : Nat) (n : Notification)
    (e : Engine) : Relates acts (· = n) e (notifyAll outside depth n e) := by
  -- On the depth: what callbacks do is told one level down, and at the last nobody acts.
  induction depth generalizing n e with
  | zero => exact tellInTurn_relates n (fun _ e => .refl e) e fun _ _ _ => rfl
  | succ depth deeper =>
    refine tellInTurn_relates n
      (fun l e => react_relates outside.toLink deeper (outside.reaction l n) e) e ?_
    intro l still e
    simp only [quiet l still, react]

end Engine

end SpeechClient
