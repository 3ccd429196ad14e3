import SpeechClient.Proofs.Result.Scores

/-!
# The words that reading keeps

The words of an alternative are read one after another, and a word that does not fit those kept
before it is left out.  A JSON text holds no NaN, so a word is left out exactly if it lasts no time
or starts before the last one that was kept.

- `Words.keep`: the words that are kept, from left to right.
- `Alternative.words_ofJson`: what reading makes of the array of words.
-/

namespace SpeechClient

/-- The word has the text and the times of the value, and for its confidence what is left of the
score; a member that is missing or of another type counts as nothing. -/
structure Word.Says (w : Word) (e : Json) : Prop where
  text : w.text = match e.get? "text" with
    | some (.string s) => s
    | _ => ""
  score : Scored w.confidence e
  startTime : w.startTime = match e.get? "start_time" with
    | some (.number n) => n.toDouble
    | _ => .zero
  endTime : w.endTime = match e.get? "end_time" with
    | some (.number n) => n.toDouble
    | _ => .zero

theorem Word.says_ofJson {e : Json} (stored : e.Stored) : (Word.ofJson e).Says e where
  text := Json.textOf_eq "text" e
  score := scored_intOf stored
  startTime := Json.doubleOf?_getD "start_time" e .zero
  endTime := Json.doubleOf?_getD "end_time" e .zero

theorem Word.timed_ofJson {e : Json} (free : e.NaNFree) : (Word.ofJson e).Timed := by
  have number (name : String) : ((e.doubleOf? name).getD .zero).isNaN = false := by
    rw [Json.doubleOf?_getD]
    split
    next n found => exact free.of_get? found n .here
    · decide
  exact ⟨number "start_time", number "end_time"⟩

namespace Words

def Fits (last : Option Word) (w : Word) : Prop :=
  w.startTime.lt w.endTime = true ∧ ∀ u ∈ last, w.startTime.lt u.startTime = false

instance (last : Option Word) (w : Word) : Decidable (Fits last w) :=
  inferInstanceAs (Decidable (_ ∧ ∀ u ∈ last, _))

/-- From left to right the words that fit, each next to the last one kept before it. -/
def keep (last : Option Word) : List Word → List Word
  | [] => []
  | w :: rest => if Fits last w then w :: keep (some w) rest else keep last rest

variable {last : Option Word} {w : Word} {words before after : List Word}

theorem keep_cons_of_fits (fits : Fits last w) (rest : List Word) :
    keep last (w :: rest) = w :: keep (some w) rest := by
  rw [keep, if_pos fits]

theorem keep_cons_of_not_fits (unfit : ¬Fits last w) (rest : List Word) :
    keep last (w :: rest) = keep last rest := by
  rw [keep, if_neg unfit]

/-- The words behind are put to the last one kept in front, or to the one before the list if none
was. -/
theorem keep_append (last : Option Word) (before after : List Word) :
    keep last (before ++ after) =
      keep last before ++ keep ((keep last before).getLast?.or last) after := by
  induction before generalizing last with
  | nil => rfl
  | cons w before later =>
    by_cases fits : Fits last w
    · simp only [List.cons_append, keep_cons_of_fits fits, later, List.getLast?_cons]
      cases (keep (some w) before).getLast? <;> rfl
    · simp only [List.cons_append, keep_cons_of_not_fits fits, later]

theorem keep_of_inOrder (ordered : InOrder words)
    (follow : ∀ u ∈ last, ∀ w ∈ words, w.startTime.lt u.startTime = false) :
    keep last words = words := by
  induction words generalizing last with
  | nil => rfl
  | cons w words after =>
    obtain ⟨lasting, rising⟩ := ordered
    obtain ⟨lasts, lasting⟩ := List.forall_mem_cons.1 lasting
    obtain ⟨before, rising⟩ := List.pairwise_cons.1 rising
    have fits : Fits last w := ⟨lasts, fun u member => follow u member w List.mem_cons_self⟩
    rw [keep_cons_of_fits fits, after ⟨lasting, rising⟩]
    -- the one kept last is now the word itself, and it is in order with those behind it
    rintro u ⟨⟩ v member
    exact Double.lt_eq_false_iff.2 (.inr (.inr (before v member)))

end Words

namespace Alternative

open Words

variable {a : Alternative} {w : Word}

/-- A word whose times are numbers is taken exactly if it fits. -/
theorem accepts_iff_fits (timed : w.Timed) :
    a.accepts w = true ↔ Fits a.words.getLast? w := by
  rw [accepts_iff, Double.le_eq_false_iff, Fits]
  simp [timed.startTime, timed.endTime]

theorem words_pushWords {pushed : List Word} (timed : ∀ w ∈ pushed, w.Timed) :
    (a.pushWords pushed).words = a.words ++ keep a.words.getLast? pushed := by
  induction pushed generalizing a with
  | nil => exact (List.append_nil _).symm
  | cons w pushed after =>
    obtain ⟨number, timed⟩ := List.forall_mem_cons.1 timed
    rw [pushWords_cons, after timed]
    obtain ⟨accepted, words⟩ | ⟨refused, words⟩ := words_pushWord_cases a w
    · rw [keep_cons_of_fits ((accepts_iff_fits number).1 accepted), words]
      simp
    · have unfit : ¬Fits a.words.getLast? w := by
        rw [← accepts_iff_fits number, refused]
        exact Bool.false_ne_true
      rw [keep_cons_of_not_fits unfit, words]

/-- Reading an alternative makes a word of each element of its array, as that element says, and
keeps the words that fit, from left to right.  So the words that are kept are in order, words that
are in order are all kept, and a word that does not fit changes nothing for the others.  A score
that 32 bits hold without its fraction becomes just that. -/
theorem words_ofJson (j : Json) (stored : j.Stored) :
    let elements := match j.get? "words" with
      | some (.array elements) => elements
      | _ => []
    let words := elements.map Word.ofJson
    let kept := (Alternative.ofJson j).words
    (∀ e ∈ elements, (Word.ofJson e).Says e ∧
      ∀ n, e.get? "score" = some (.number n) → -2 ^ 31 ≤ towardZero n.value →
        towardZero n.value < 2 ^ 31 → (Word.ofJson e).confidence.toInt = towardZero n.value) ∧
    kept = keep none words ∧ kept.Sublist words ∧ InOrder kept ∧ (InOrder words → kept = words) ∧
    ∀ before w after, words = before ++ w :: after →
      (Fits (keep none before).getLast? w →
        kept = keep none before ++ w :: keep (some w) after) ∧
      (¬Fits (keep none before).getLast? w → kept = keep none (before ++ after)) := by
  intro elements words kept
  have array : elements = j.elementsOf "words" := (Json.elementsOf_eq "words" j).symm
  let start : Alternative :=
    { text := j.textOf "text", confidence := j.intOf "score"
      interpretations := (j.elementsOf "interpretations").map Interpretation.ofJson }
  have pushed : kept = (start.pushWords (elements.map Word.ofJson)).words := by
    rw [array]
    rfl
  have timed : ∀ w ∈ words, w.Timed := by
    intro w member
    obtain ⟨e, element, rfl⟩ := List.mem_map.1 member
    exact Word.timed_ofJson (stored.nanFree.of_mem_elementsOf (array ▸ element))
  have same : kept = keep none words := pushed.trans (words_pushWords timed)
  have among : kept.Sublist words := by
    obtain ⟨taken, among, words⟩ := exists_words_pushWords start words
    exact pushed ▸ words ▸ among
  have unopposed : Unopposed kept :=
    pushed ▸ unopposed_pushWords (a := start) ⟨List.forall_mem_nil _, .nil⟩ words
  have denoted : ∀ e ∈ elements, (Word.ofJson e).Says e := fun e member =>
    Word.says_ofJson (stored.of_mem_elementsOf (array ▸ member))
  refine ⟨fun e member => ⟨denoted e member, fun n number => (denoted e member).score.exact number⟩,
    same, among,
    unopposed.inOrder fun w member => timed w (among.subset member),
    fun ordered => same.trans (keep_of_inOrder ordered nofun), fun before w after parts => ?_⟩
  rw [same, parts, keep_append, Option.or_none]
  constructor
  · intro fits
    rw [keep_cons_of_fits fits]
  · intro unfit
    rw [keep_cons_of_not_fits unfit, keep_append, Option.or_none]

/-- The second word starts before the first and is left out, and so is an element that is no word
at all; the word between these fits the first and is kept. -/
theorem words_ofJson_out_of_order :
    let text := utf8 ("\x7b\"words\":[" ++
      "\x7b\"text\":\"one\",\"start_time\":0.5,\"end_time\":1\x7d," ++
      "\x7b\"text\":\"two\",\"start_time\":0.25,\"end_time\":2\x7d," ++
      "\x7b\"text\":\"three\",\"start_time\":0.5,\"end_time\":1.5\x7d,7]\x7d")
    ∃ j, Json.parse text = some j ∧ j.Stored ∧
      (Alternative.ofJson j).words = keep none ((j.elementsOf "words").map Word.ofJson) ∧
      (Alternative.ofJson j).words.map (·.text) = ["one", "three"] ∧
      InOrder (Alternative.ofJson j).words := by
  intro text
  have read : ((Json.parse text).map fun j => (Alternative.ofJson j).words.map (·.text)) =
      some ["one", "three"] := by
    decide +kernel
  obtain ⟨j, parsed, texts⟩ := Option.map_eq_some_iff.1 read
  have stored := Json.stored_of_parse parsed
  obtain ⟨-, kept, -, ordered, -⟩ := words_ofJson j stored
  refine ⟨j, parsed, stored, ?_, texts, ordered⟩
  rw [Json.elementsOf_eq]
  exact kept

/-- Both words are kept, but not with their scores: one with a fraction loses it, and of one beyond
32 bits the lowest bits are left. -/
theorem scores_of_kept_words :
    let text := utf8 ("\x7b\"words\":[" ++
      "\x7b\"score\":80.5,\"end_time\":1\x7d,\x7b\"score\":4294967387,\"end_time\":1\x7d]\x7d")
    let score (e : Json) : Option JsonNumber := match e.get? "score" with
      | some (.number n) => some n
      | _ => none
    ∃ j half wide, Json.parse text = some j ∧
      (j.elementsOf "words").map score = [some half, some wide] ∧
      (Alternative.ofJson j).words.map (·.confidence.toInt) = [80, 91] ∧
      half.value = 80.5 ∧ wide.value = 4294967387 := by
  intro text score
  let half : Double := ⟨0x4054200000000000⟩
  have read : ((Json.parse text).map fun j => ((j.elementsOf "words").map score,
        (Alternative.ofJson j).words.map (·.confidence.toInt))) =
      some ([some (.double half), some (.natural 4294967387)], [80, 91]) := by
    decide +kernel
  obtain ⟨j, parsed, decoded⟩ := Option.map_eq_some_iff.1 read
  obtain ⟨scores, confidences⟩ := Prod.mk.inj decoded
  refine ⟨j, .double half, .natural 4294967387, parsed, scores, confidences, ?_, ?_⟩
  · have sign : half.negative = false := by decide
    have significand : half.significand = 161 * 2 ^ 45 := by decide
    have exponent : half.exponent = -46 := by decide
    norm_num [JsonNumber.value, Double.value, sign, significand, exponent]
  · norm_num [JsonNumber.value]

end Alternative

end SpeechClient
