import Mathlib.Data.List.Forall2
import SpeechClient.Settings.Parameters

/-!
# Updates from environment variables

Every variable sets one parameter, and every parameter is set by one variable.  So what an update
does is known from what it does to a single parameter.

- `Environment.overriddenBy`: an environment with the variables of another one over its own.
- `Parameters.settings`: the parameters, each with the name of its variable.
- `Parameters.settings_update`: an update goes to each parameter by itself.
- `Parameters.update_composes`: how updates compose.
-/

namespace SpeechClient

namespace Environment

/-- The environment with the variables that `later` sets in place of its own. -/
def overriddenBy (env later : Environment) : Environment where
  entries := later.entries.filter (fun entry => (later.text? entry.1).isSome) ++ env.entries

theorem lookup_filter {α : Type} (entries : List (String × α)) (kept : String → Bool)
    (name : String) : (entries.filter fun entry => kept entry.1).lookup name =
      if kept name then entries.lookup name else none := by
  induction entries with
  | nil => simp
  | cons entry rest after =>
    obtain ⟨other, value⟩ := entry
    -- Entries of one name are all kept or all left out, so the first one of a name stays the first.
    by_cases same : name = other
    · subst same
      cases keeps : kept name <;> simp [keeps, after]
    · have differ : (name == other) = false := by simpa using same
      cases keeps : kept other <;> simp [keeps, after, List.lookup_cons, differ]

/-- A variable has the value of the environment above, if it is set there to a text. -/
theorem text?_overriddenBy (env later : Environment) (name : String) :
    (env.overriddenBy later).text? name = (later.text? name).or (env.text? name) := by
  have found : (env.overriddenBy later).entries.lookup name =
      (if (later.text? name).isSome then later.entries.lookup name else none).or
        (env.entries.lookup name) := by
    rw [overriddenBy, List.lookup_append]
    exact congrArg (Option.or · _)
      (lookup_filter later.entries (fun other => (later.text? other).isSome) name)
  unfold text? at found ⊢
  rw [found]
  cases value : later.entries.lookup name with
  | none => simp
  | some bytes =>
    cases text : bytes.text? with
    | none => simp [text]
    | some s => simp [text]

end Environment

inductive Setting where
  | number (n : UInt32)
  | switch (on : Bool)
  | text (s : String)
  deriving DecidableEq, Repr

namespace Setting

/-- What is left to the server. -/
def absent : Setting → Setting
  | number _ => number 0
  | switch _ => switch false
  | text _ => text ""

def update (env : Environment) (reset : Bool) (name : String) : Setting → Setting
  | number n => number (Parameters.field env reset Parameters.readNumber 0 name n)
  | switch on => switch (Parameters.field env reset Parameters.readSwitch false name on)
  | text s => text (Parameters.field env reset id "" name s)

variable {env later : Environment} {name : String}

theorem update_congr (same : env.text? name = later.text? name) (reset : Bool) (s : Setting) :
    s.update env reset name = s.update later reset name := by
  cases s <;> simp only [update, Parameters.field, same]

theorem update_update (env later : Environment) (name : String) (s : Setting) :
    (s.update env false name).update later false name =
      s.update (env.overriddenBy later) false name := by
  have text := env.text?_overriddenBy later name
  -- What the later environment sets hides what the earlier one did; else that is kept.
  cases above : later.text? name <;> cases s <;>
    simp [update, Parameters.field, text, above]

/-- To reset is to start from nothing. -/
theorem update_reset (env : Environment) (name : String) (s : Setting) :
    s.update env true name = s.absent.update env false name := by
  cases s <;> cases value : env.text? name <;> simp [update, absent, Parameters.field, value]

theorem update_idem (env : Environment) (reset : Bool) (name : String) (s : Setting) :
    (s.update env reset name).update env reset name = s.update env reset name := by
  cases s <;> cases value : env.text? name <;> cases reset <;>
    simp [update, Parameters.field, value]

end Setting

namespace Parameters

/-- All is left to the server: zero, false or empty. -/
def blank : Parameters :=
  { maxSentences := 0 }

def settings (p : Parameters) : List (String × Setting) := [
  ("CONFIDENCE_THRESHOLD", .number p.confidenceThreshold),
  ("MAX_SENTENCES", .number p.maxSentences),
  ("NO_INPUT_TIMEOUT_MILLISECONDS", .number p.noInputTimeoutMs),
  ("RECOG_TIMEOUT_SECONDS", .number p.recognitionTimeoutSeconds),
  ("NO_INPUT_TIMEOUT_ENABLED", .switch p.noInputTimeoutEnabled),
  ("RECOG_TIMEOUT_ENABLED", .switch p.recognitionTimeoutEnabled),
  ("INFER_AGE_ENABLED", .switch p.inferAge),
  ("INFER_EMOTION_ENABLED", .switch p.inferEmotion),
  ("INFER_GENDER_ENABLED", .switch p.inferGender),
  ("HEAD_MARGIN_MILLISECONDS", .number p.headMarginMs),
  ("TAIL_MARGIN_MILLISECONDS", .number p.tailMarginMs),
  ("WAIT_END_MILLISECONDS", .number p.waitEndMs),
  ("CONTINUOUS_MODE", .switch p.continuousMode),
  ("MAX_SEGMENT_DURATION", .number p.maxSegmentDuration),
  ("START_INPUT_TIMERS", .switch p.deferInputTimers),
  ("ENDPOINTER_AUTO_LEVEL_LEN", .number p.autoLevelLength),
  ("ENDPOINTER_LEVEL_MODE", .number p.levelMode),
  ("ENDPOINTER_LEVEL_THRESHOLD", .number p.levelThreshold),
  ("VERIFY_BUFFER_UTTERANCE", .switch p.verifyBufferUtterance),
  ("ACCOUNT_TAG", .text p.accountTag),
  ("CHANNEL_IDENTIFIER", .text p.channelIdentifier),
  ("MEDIA_TYPE", .text p.mediaType)]

variable {p q : Parameters}

/-- The settings are all there is to the parameters. -/
theorem settings_inj : p.settings = q.settings ↔ p = q := by
  refine ⟨fun same => ?_, congrArg settings⟩
  cases p
  cases q
  simpa [settings] using same

/-- No variable sets two parameters. -/
theorem settings_nodup (p : Parameters) : (p.settings.map Prod.fst).Nodup := by
  have names : p.settings.map Prod.fst = blank.settings.map Prod.fst := rfl
  rw [names]
  decide +kernel

/-- An update goes to each parameter by itself, and by the variable of its name only. -/
theorem settings_update (env : Environment) (reset : Bool) (p : Parameters) :
    (update env reset p).settings =
      p.settings.map fun (name, s) => (name, s.update env reset name) := rfl

/-- Parameters that are made from the same ones are the same if every setting is. -/
theorem eq_of_settings {first second : String → Setting → Setting} (start : Parameters)
    (made : p.settings = start.settings.map fun (name, s) => (name, first name s))
    (other : q.settings = start.settings.map fun (name, s) => (name, second name s))
    (same : ∀ name s, first name s = second name s) : p = q := by
  apply settings_inj.1
  rw [made, other]
  apply List.map_congr_left
  rintro ⟨name, s⟩ -
  exact congrArg (Prod.mk name) (same name s)

/-- One update after another is one update, with the later environment over the earlier one. -/
theorem update_update (env later : Environment) (p : Parameters) :
    update later false (update env false p) = update (env.overriddenBy later) false p :=
  eq_of_settings p rfl rfl fun name s => s.update_update env later name

theorem update_reset (env : Environment) (p : Parameters) :
    update env true p = update env false blank :=
  eq_of_settings p rfl rfl fun name s => s.update_reset env name

theorem update_idem (env : Environment) (reset : Bool) (p : Parameters) :
    update env reset (update env reset p) = update env reset p :=
  eq_of_settings p rfl rfl fun name s => s.update_idem env reset name

/-- The same parameters, except perhaps the one that the variable sets. -/
def SameBeside (name : String) (p q : Parameters) : Prop :=
  List.Forall₂ (fun a b => a.1 = b.1 ∧ (a.1 ≠ name → a.2 = b.2)) p.settings q.settings

theorem sameBeside_update {env other : Environment} {name : String}
    (same : ∀ n, n ≠ name → env.text? n = other.text? n) (reset : Bool) (p : Parameters) :
    SameBeside name (update env reset p) (update other reset p) := by
  unfold SameBeside
  rw [settings_update, settings_update, List.forall₂_map_left_iff, List.forall₂_map_right_iff]
  refine List.forall₂_same.2 fun ⟨n, s⟩ _ => ⟨rfl, fun differs => ?_⟩
  exact Setting.update_congr (same n differs) reset s

/-- A variable that an environment sets is not read from the file of variables. -/
theorem sameWhere_ofEnvironment (file : VariableFile) (env : Environment) :
    List.Forall₂ (fun a b => a.1 = b.1 ∧ ((env.text? a.1).isSome → a.2 = b.2))
      (ofEnvironment file env).settings (update env false {}).settings := by
  rw [ofEnvironment, settings_update, settings_update, List.forall₂_map_left_iff,
    List.forall₂_map_right_iff]
  refine List.forall₂_same.2 fun ⟨name, s⟩ _ => ⟨rfl, fun set => ?_⟩
  obtain ⟨value, set⟩ := Option.isSome_iff_exists.1 set
  exact Setting.update_congr ((file.text?_load env name value set).trans set.symm) false s

/-- A file that sets none of the variables which the environment leaves open changes nothing. -/
theorem ofEnvironment_eq (file : VariableFile) {env : Environment}
    (adds : ∀ name ∈ blank.settings.map Prod.fst,
      env.text? name = none → (file.load env).text? name = none) :
    ofEnvironment file env = update env false {} := by
  have same : ∀ name ∈ blank.settings.map Prod.fst,
      (file.load env).text? name = env.text? name := by
    intro name member
    cases set : env.text? name with
    | none => exact adds name member set
    | some value => exact file.text?_load env name value set
  apply settings_inj.1
  rw [ofEnvironment, settings_update, settings_update]
  apply List.map_congr_left
  rintro ⟨name, s⟩ member
  have named : name ∈ ({} : Parameters).settings.map Prod.fst := List.mem_map_of_mem member
  exact congrArg (Prod.mk name) (Setting.update_congr (same name named) false s)

/-- An update after another is one update with the later environment over the earlier one, so to
repeat one changes nothing; one that resets does not depend on what was there before.  The
parameters of an environment are the defaults after an update, for each variable that the
environment sets, and for all if the file of variables sets none of the others.  Of two
environments that differ in one variable, updates make parameters that differ at most in the one
that this variable sets. -/
theorem update_composes (file : VariableFile) (env other : Environment) (p q : Parameters) :
    (∀ name, (env.overriddenBy other).text? name = (other.text? name).or (env.text? name)) ∧
    update other false (update env false p) = update (env.overriddenBy other) false p ∧
    update env true p = update env false blank ∧ update env true p = update env true q ∧
    (∀ reset, update env reset (update env reset p) = update env reset p) ∧
    ofEnvironment file env = update (file.load env) false {} ∧
    List.Forall₂ (fun a b => a.1 = b.1 ∧ ((env.text? a.1).isSome → a.2 = b.2))
      (ofEnvironment file env).settings (update env false {}).settings ∧
    ((∀ name ∈ blank.settings.map Prod.fst,
        env.text? name = none → (file.load env).text? name = none) →
      ofEnvironment file env = update env false {}) ∧
    (p.settings.map Prod.fst).Nodup ∧ (p.settings = q.settings ↔ p = q) ∧
    ∀ name, (∀ n, n ≠ name → env.text? n = other.text? n) →
      ∀ reset, SameBeside name (update env reset p) (update other reset p) :=
  ⟨env.text?_overriddenBy other, update_update env other p, update_reset env p,
    (update_reset env p).trans (update_reset env q).symm, fun reset => update_idem env reset p, rfl,
    sameWhere_ofEnvironment file env, ofEnvironment_eq file,
    p.settings_nodup, settings_inj, fun _ same reset => sameBeside_update same reset p⟩

/-- A file that sets one variable where it is open. -/
def threeSentences : VariableFile where
  load env := if (env.text? "MAX_SENTENCES").isSome then env
    else ⟨("MAX_SENTENCES", utf8 "3") :: env.entries⟩
  text?_load env name s set := by
    split
    · exact set
    next unset =>
      have other : (name == "MAX_SENTENCES") = false := by
        refine beq_eq_false_iff_ne.2 fun same => unset ?_
        rw [← same, set]
        rfl
      simpa [Environment.text?, List.lookup_cons, other] using set

/-- Where one environment has a value that is no text, the parameter of that variable keeps its
default, or gets the value of the file, and all others are the same. -/
theorem update_composes_beside_one :
    let env : Environment := ⟨[("MAX_SENTENCES", utf8 "2"), ("ACCOUNT_TAG", utf8 "a")]⟩
    let other : Environment := ⟨[("MAX_SENTENCES", [0xff]), ("ACCOUNT_TAG", utf8 "a")]⟩
    (∀ n, n ≠ "MAX_SENTENCES" → env.text? n = other.text? n) ∧
      SameBeside "MAX_SENTENCES" (update env false {}) (update other false {}) ∧
      (update env false {}).maxSentences = 2 ∧ (update other false {}).maxSentences = 1 ∧
      ofEnvironment threeSentences env = update env false {} ∧
      (ofEnvironment threeSentences other).maxSentences = 3 := by
  intro env other
  have same : ∀ n, n ≠ "MAX_SENTENCES" → env.text? n = other.text? n := by
    intro n differs
    have different : (n == "MAX_SENTENCES") = false := beq_eq_false_iff_ne.2 differs
    simp [env, other, Environment.text?, List.lookup_cons, different]
  have set : threeSentences.load env = env := by decide +kernel
  obtain ⟨-, -, -, -, -, -, -, loaded, -, -, beside⟩ :=
    update_composes threeSentences env other {} {}
  refine ⟨same, beside _ same false, by decide +kernel, by decide +kernel, loaded ?_,
    by decide +kernel⟩
  rw [set]
  exact fun name member unset => unset

end Parameters

end SpeechClient
