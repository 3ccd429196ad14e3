import SpeechClient.Proofs.Wire.Lookup
import SpeechClient.Proofs.Wire.Requests

/-!
# What the headers tell of the parameters

A header is sent of every parameter that is not left to the server, except of those that the others
make irrelevant.  So the headers tell all parameters but those.

- `Parameters.relevant`: the parameters without what the protocol ignores.
- `Parameters.texts`: every key, with the text that is sent under it.
- `Parameters.headers_eq`: the headers are the texts of the relevant parameters.
- `Request.setParameters_tells`: requests and parameters determine one another.
-/

namespace SpeechClient

namespace Parameters

/-- The parameters with zero for those that the protocol ignores: the value of a timeout that is
off, and the level parameter of another mode. -/
def relevant (p : Parameters) : Parameters :=
  { p with
    noInputTimeoutMs := if p.noInputTimeoutEnabled then p.noInputTimeoutMs else 0
    recognitionTimeoutSeconds :=
      if p.recognitionTimeoutEnabled then p.recognitionTimeoutSeconds else 0
    autoLevelLength := if p.levelMode = 1 then p.autoLevelLength else 0
    levelThreshold := if p.levelMode = 2 then p.levelThreshold else 0 }

/-! ## Texts -/

def numeral? (value : UInt32) : Option String :=
  if value = 0 then none else some (toString value.toNat)

def word? (word : String) (on : Bool) : Option String :=
  if on then some word else none

def text? (value : String) : Option String :=
  if value.isEmpty then none else some value

theorem numeral?_inj {value other : UInt32} :
    numeral? value = numeral? other ↔ value = other := by
  refine ⟨fun same => ?_, congrArg numeral?⟩
  by_cases zero : value = 0 <;> by_cases zero' : other = 0 <;> simp [numeral?, zero, zero'] at same
  · rw [zero, zero']
  · -- Digits are read back as the number.
    have digits : Nat.toDigits 10 value.toNat = Nat.toDigits 10 other.toNat := by
      rw [← Nat.toList_repr, ← Nat.toList_repr, same]
    apply UInt32.toNat_inj.1
    rw [← Nat.ofDigitChars_ten_toDigits (n := value.toNat), digits, Nat.ofDigitChars_ten_toDigits]

theorem word?_inj {word : String} {on other : Bool} :
    word? word on = word? word other ↔ on = other := by
  cases on <;> cases other <;> simp [word?]

theorem text?_inj {value other : String} : text? value = text? other ↔ value = other := by
  refine ⟨fun same => ?_, congrArg text?⟩
  by_cases empty : value = "" <;> by_cases empty' : other = "" <;>
    simp [text?, empty, empty'] at same
  · rw [empty, empty']
  · exact same

/-- Every key, with the text that is sent under it. -/
def texts (p : Parameters) : List (String × Option String) := [
  ("decoder.confidenceThreshold", numeral? p.confidenceThreshold),
  ("decoder.maxSentences", numeral? p.maxSentences),
  ("endpointer.headMargin", numeral? p.headMarginMs),
  ("endpointer.tailMargin", numeral? p.tailMarginMs),
  ("endpointer.waitEnd", numeral? p.waitEndMs),
  ("endpointer.maxSegmentDuration", numeral? p.maxSegmentDuration),
  ("endpointer.levelMode", numeral? p.levelMode),
  ("endpointer.autoLevelLen", numeral? p.autoLevelLength),
  ("endpointer.levelThreshold", numeral? p.levelThreshold),
  ("noInputTimeout.enabled", word? "1" p.noInputTimeoutEnabled),
  ("noInputTimeout.value", numeral? p.noInputTimeoutMs),
  ("recognitionTimeout.enabled", word? "1" p.recognitionTimeoutEnabled),
  ("recognitionTimeout.value", numeral? p.recognitionTimeoutSeconds),
  ("decoder.startInputTimers", word? "1" p.deferInputTimers),
  ("decoder.continuousMode", word? "true" p.continuousMode),
  ("Infer-age-enabled", word? "true" p.inferAge),
  ("Infer-emotion-enabled", word? "true" p.inferEmotion),
  ("Infer-gender-enabled", word? "true" p.inferGender),
  ("Ver-Buffer-Utterance", word? "true" p.verifyBufferUtterance),
  ("licenseManager.accountTag", text? p.accountTag),
  ("Channel-Identifier", text? p.channelIdentifier),
  ("Media-Type", text? p.mediaType)]

variable {p q : Parameters}

theorem texts_inj : p.texts = q.texts ↔ p = q := by
  refine ⟨fun same => ?_, congrArg texts⟩
  cases p
  cases q
  simp only [texts, List.cons.injEq, Prod.mk.injEq, numeral?_inj, word?_inj, text?_inj, true_and]
    at same
  simp only [mk.injEq]
  tauto

theorem texts_keys (p : Parameters) : p.texts.map Prod.fst = keys := rfl

/-! ## Headers of texts -/

def sent (entry : String × Option String) : List (String × String) :=
  (entry.2.map (entry.1, ·)).toList

theorem mem_flatMap_sent {entries : List (String × Option String)} {key text : String} :
    (key, text) ∈ entries.flatMap sent ↔ (key, some text) ∈ entries := by
  simp [sent]

theorem numberHeader_eq (key : String) (value : UInt32) :
    numberHeader key value = sent (key, numeral? value) := by
  unfold numberHeader numeral?
  split <;> rfl

theorem switchHeader_eq (key word : String) (on : Bool) :
    switchHeader key word on = sent (key, word? word on) := by
  cases on <;> rfl

theorem textHeader_eq (key value : String) :
    textHeader key value = sent (key, text? value) := by
  unfold textHeader text?
  split <;> rfl

theorem numberHeader_zero (key : String) : numberHeader key 0 = [] := rfl

/-- A timeout that is off counts as zero. -/
theorem timeoutHeaders_eq (name : String) (on : Bool) (value : UInt32) :
    timeoutHeaders name on value = switchHeader (name ++ ".enabled") "1" on ++
      numberHeader (name ++ ".value") (if on then value else 0) := by
  cases on <;> simp [timeoutHeaders, switchHeader, numberHeader_zero]

/-- The level parameter of another mode counts as zero. -/
theorem levelHeaders_eq (p : Parameters) :
    p.levelHeaders = numberHeader "endpointer.levelMode" p.levelMode ++
      (numberHeader "endpointer.autoLevelLen" p.relevant.autoLevelLength ++
        numberHeader "endpointer.levelThreshold" p.relevant.levelThreshold) := by
  by_cases automatic : p.levelMode = 1
  · simp [levelHeaders, relevant, automatic, numberHeader_zero]
  · simp only [levelHeaders, relevant, automatic, if_false, numberHeader_zero, List.nil_append]
    split <;> rfl

/-- The headers are the texts of the relevant parameters. -/
theorem headers_eq (p : Parameters) : p.headers = p.relevant.texts.flatMap sent := by
  -- The keys of a timeout are put together from its name.
  have names : ("noInputTimeout" ++ ".enabled" = "noInputTimeout.enabled" ∧
      "noInputTimeout" ++ ".value" = "noInputTimeout.value") ∧
      "recognitionTimeout" ++ ".enabled" = "recognitionTimeout.enabled" ∧
      "recognitionTimeout" ++ ".value" = "recognitionTimeout.value" := ⟨⟨rfl, rfl⟩, rfl, rfl⟩
  simp only [headers, timeoutHeaders_eq, levelHeaders_eq, numberHeader_eq, switchHeader_eq,
    textHeader_eq, names, texts, List.flatMap_cons, List.flatMap_nil, List.append_nil,
    List.append_assoc]
  rfl

/-- Entries with the same keys, each named once, are the same if they hold the same texts. -/
theorem eq_of_same_texts {a b : List (String × Option String)}
    (names : a.map Prod.fst = b.map Prod.fst) (once : (a.map Prod.fst).Nodup)
    (same : ∀ key text, (key, some text) ∈ a ↔ (key, some text) ∈ b) : a = b := by
  induction a generalizing b with
  | nil => exact (List.map_eq_nil_iff.1 names.symm).symm
  | cons head rest after =>
    obtain ⟨key, text⟩ := head
    cases b with
    | nil => simp at names
    | cons head' rest' =>
      obtain ⟨key', text'⟩ := head'
      simp only [List.map_cons, List.cons.injEq] at names
      obtain ⟨rfl, names⟩ := names
      obtain ⟨fresh, once⟩ := List.nodup_cons.1 once
      -- The first key is in neither rest, so a text under it is that of the first entry.
      have absent : ∀ t, (key, some t) ∉ rest := fun t member =>
        fresh (List.mem_map.2 ⟨_, member, rfl⟩)
      have absent' : ∀ t, (key, some t) ∉ rest' := fun t member =>
        fresh (names ▸ List.mem_map.2 ⟨_, member, rfl⟩)
      have first : text = text' := by
        ext t
        simpa [absent t, absent' t, eq_comm] using same key t
      subst first
      have others : ∀ k t, (k, some t) ∈ rest ↔ (k, some t) ∈ rest' := by
        intro k t
        by_cases here : k = key
        · subst here
          exact iff_of_false (absent t) (absent' t)
        · simpa [here] using same k t
      rw [after names once others]

/-- Parameters of which the same headers are sent differ only in what the protocol ignores. -/
theorem mem_headers_iff_iff : (∀ e, e ∈ p.headers ↔ e ∈ q.headers) ↔ p.relevant = q.relevant := by
  constructor
  · intro same
    -- The keys are those of all parameters, so only the texts under them can differ.
    have names : p.relevant.texts.map Prod.fst = q.relevant.texts.map Prod.fst := by
      rw [texts_keys, texts_keys]
    have once : (p.relevant.texts.map Prod.fst).Nodup := by
      rw [texts_keys]
      exact keys_nodup
    apply texts_inj.1
    apply eq_of_same_texts names once
    intro key text
    simpa only [headers_eq, mem_flatMap_sent] using same (key, text)
  · intro same e
    rw [headers_eq, headers_eq, same]

theorem headers_eq_iff : p.headers = q.headers ↔ p.relevant = q.relevant := by
  constructor
  · intro same
    exact mem_headers_iff_iff.1 fun e => by rw [same]
  · intro same
    rw [headers_eq, headers_eq, same]

end Parameters

namespace Request

open Wire

/-- The headers of the request are the parameters, with their octets. -/
theorem mem_headers_setParameters (p : Parameters) (entry : Bytes × Bytes) :
    entry ∈ (setParameters p).headers.entries ↔
      ∃ e ∈ p.headers, entry = (utf8 e.1, utf8 e.2) := by
  obtain ⟨key, value⟩ := entry
  rw [← Headers.get?_eq_some_iff]
  simp only [Prod.mk.injEq]
  exact header?_setParameters_iff p

/-- The request names every parameter once and holds all of them, and two requests are the same
exactly if the parameters differ in nothing but what the protocol ignores. -/
theorem setParameters_tells (p q : Parameters) :
    (p.headers.map Prod.fst).Nodup ∧
    (∀ entry, entry ∈ (setParameters p).headers.entries ↔
      ∃ e ∈ p.headers, entry = (utf8 e.1, utf8 e.2)) ∧
    (p.headers = q.headers ↔ p.relevant = q.relevant) ∧
    ((∀ e, e ∈ p.headers ↔ e ∈ q.headers) ↔ p.relevant = q.relevant) ∧
    (setParameters p = setParameters q ↔ p.relevant = q.relevant) := by
  refine ⟨p.headers_nodup, mem_headers_setParameters p, Parameters.headers_eq_iff,
    Parameters.mem_headers_iff_iff, fun same => ?_, fun same => ?_⟩
  · -- A header is read off the request, and no two texts have the same octets.
    rw [← Parameters.mem_headers_iff_iff]
    rintro ⟨key, text⟩
    have sends : ∀ r : Parameters, (key, text) ∈ r.headers ↔
        (utf8 key, utf8 text) ∈ (setParameters r).headers.entries := by
      intro r
      simp [mem_headers_setParameters, utf8_inj]
    rw [sends, sends, same]
  · rw [setParameters_eq, setParameters_eq, Parameters.headers_eq_iff.2 same]

end Request

end SpeechClient
