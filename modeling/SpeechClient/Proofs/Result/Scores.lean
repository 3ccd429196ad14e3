import SpeechClient.Proofs.Json.Integers
import SpeechClient.Proofs.Result.Status
import SpeechClient.Proofs.Result.WordOrder

/-!
# Scores

The confidences in a result and the number of a segment are integers of 32 bits, and a body may hold
any number in their places.  A number that 32 bits hold without its fraction becomes just that; of a
greater one the lowest bits are left, so a greater score can become a smaller confidence.

- `Scored`, `Numbered`: what a confidence and the number of a segment are made of.
- `SegmentResult.scored_ofJson`: all that is read from a body is made so, and when that is the
  nearest integer.
-/

namespace SpeechClient

/-- The confidence is what is left of the score of the value; a score that is no number counts as
zero. -/
def Scored (confidence : Int32) (e : Json) : Prop :=
  match e.get? "score" with
  | some (.number n) => confidence.toInt = lowWord (held 64 (towardZero n.value))
  | _ => confidence.toInt = 0

/-- Of a score that 32 bits hold without its fraction just that is left. -/
theorem Scored.exact {confidence : Int32} {e : Json} {n : JsonNumber}
    (scored : Scored confidence e) (number : e.get? "score" = some (.number n))
    (low : -2 ^ 31 ≤ towardZero n.value) (high : towardZero n.value < 2 ^ 31) :
    confidence.toInt = towardZero n.value := by
  unfold Scored at scored
  rw [number] at scored
  exact scored.trans (lowWord_held_of_word low high)

/-- The number of the segment is what is left of an integer; anything that is not written as an
integer of a signed word of 64 bits counts as zero. -/
def Numbered (segment : Int32) (j : Json) : Prop :=
  match j.get? "segment_index" with
  | some (.number (.natural n)) => segment.toInt = if n < 2 ^ 63 then lowWord n else 0
  | some (.number (.negative i)) => segment.toInt = lowWord i
  | _ => segment.toInt = 0

theorem scored_intOf {e : Json} (stored : e.Stored) : Scored (e.intOf "score") e := by
  unfold Scored
  split
  next n number =>
    rw [Json.intOf_of_stored stored number]
    exact Int32.toInt_ofInt
  next other =>
    rw [Json.intOf_of_no_number other]
    rfl

theorem numbered_ofJson (j : Json) : Numbered (PartialResult.ofJson j).segment j := by
  have half : UInt64.size / 2 = 2 ^ 63 := by decide
  unfold Numbered PartialResult.ofJson
  rcases j.get? "segment_index" with _ | (_ | _ | (n | i | x) | _ | _ | _)
  case some.number.natural =>
    simp only [Option.bind_some, Json.asInt?, half]
    split
    · exact Int32.toInt_ofInt
    · rfl
  case some.number.negative => exact Int32.toInt_ofInt
  all_goals rfl

/-- What is made of each element of a list stands to it as it should. -/
theorem forall₂_map_left {α β : Type} {R : α → β → Prop} {make : β → α} {elements : List β}
    (made : ∀ e ∈ elements, R (make e) e) : List.Forall₂ R (elements.map make) elements :=
  List.forall₂_map_left_iff.2 (List.forall₂_same.2 made)

namespace Alternative

theorem pushWords_scores (a : Alternative) (pushed : List Word) :
    (a.pushWords pushed).confidence = a.confidence ∧
      (a.pushWords pushed).interpretations = a.interpretations := by
  induction pushed generalizing a with
  | nil => exact ⟨rfl, rfl⟩
  | cons w pushed after =>
    rw [pushWords_cons, (after _).1, (after _).2, pushWord]
    split <;> exact ⟨rfl, rfl⟩

variable {e : Json}

theorem scores_ofJson (stored : e.Stored) :
    Scored (ofJson e).confidence e ∧
      List.Forall₂ (fun i => Scored i.confidence) (ofJson e).interpretations
        (e.elementsOf "interpretations") ∧
      ∃ kept, kept.Sublist (e.elementsOf "words") ∧
        List.Forall₂ (fun w => Scored w.confidence) (ofJson e).words kept := by
  -- All but the words is there before the words are pushed.
  let start : Alternative :=
    { text := e.textOf "text", confidence := e.intOf "score"
      interpretations := (e.elementsOf "interpretations").map Interpretation.ofJson }
  let words := (e.elementsOf "words").map Word.ofJson
  have pushed : ofJson e = start.pushWords words := rfl
  have element {name : String} {x : Json} (member : x ∈ e.elementsOf name) :
      Scored (x.intOf "score") x :=
    scored_intOf (stored.of_mem_elementsOf member)
  obtain ⟨confidence, interpretations⟩ := pushWords_scores start words
  obtain ⟨taken, among, all⟩ := exists_words_pushWords start words
  obtain ⟨kept, inside, rfl⟩ := List.sublist_map_iff.1 among
  rw [pushed, confidence, interpretations, all]
  exact ⟨scored_intOf stored, forall₂_map_left fun x member => element member,
    kept, inside, forall₂_map_left fun x member => element (inside.subset member)⟩

end Alternative

namespace SegmentResult

/-- All confidences in what is read from a body, and the number of its segment, are what is left of
the numbers in their places.  That is the nearest integer of 32 bits if the number is in their
range, and else only if the lowest bits happen to be those of the bound; in the range a greater
number does not become a smaller one. -/
theorem scored_ofJson {body : Bytes} {j : Json} (parsed : Json.parse body = some j)
    (status : String) :
    let elements (name : String) (e : Json) : List Json := match e.get? name with
      | some (.array elements) => elements
      | _ => []
    List.Forall₂ (fun a e => Scored a.confidence e ∧
        List.Forall₂ (fun i => Scored i.confidence) a.interpretations
          (elements "interpretations" e) ∧
        ∃ kept, kept.Sublist (elements "words" e) ∧
          List.Forall₂ (fun w => Scored w.confidence) a.words kept)
      (SegmentResult.ofJson j status).alternatives (elements "alternatives" j) ∧
    Numbered (PartialResult.ofJson j).segment j ∧
    (∀ i : ℤ, lowWord (held 64 i) = held 32 i ↔
      -2 ^ 31 ≤ i ∧ i < 2 ^ 31 ∨
        2 ^ 31 ≤ i ∧ i < 2 ^ 63 ∧ i % 2 ^ 32 = 2 ^ 31 - 1 ∨
        -2 ^ 63 ≤ i ∧ i < -2 ^ 31 ∧ i % 2 ^ 32 = 2 ^ 31) ∧
    ∀ q r : ℚ, q ≤ r → -2 ^ 31 ≤ towardZero q → towardZero r < 2 ^ 31 →
      lowWord (held 64 (towardZero q)) = towardZero q ∧
      lowWord (held 64 (towardZero r)) = towardZero r ∧ towardZero q ≤ towardZero r := by
  intro elements
  have stored : j.Stored := Json.stored_of_parse parsed
  have same (name : String) (e : Json) : elements name e = e.elementsOf name :=
    (Json.elementsOf_eq name e).symm
  have alternatives : (SegmentResult.ofJson j status).alternatives =
      (j.elementsOf "alternatives").map Alternative.ofJson := alternatives_pushAlternatives _ _
  refine ⟨?_, numbered_ofJson j, lowWord_held_eq_iff, fun q r le low high => ?_⟩
  · simp only [same, alternatives]
    exact forall₂_map_left fun e member =>
      Alternative.scores_ofJson (stored.of_mem_elementsOf member)
  · have rising := towardZero_mono le
    exact ⟨lowWord_held_of_word low (by omega), lowWord_held_of_word (by omega) high, rising⟩

/-- A score with a fraction loses it, and of one beyond all words of 64 bits every bit that is left
is set; the score of the second interpretation is no number. -/
theorem scored_ofJson_mixed :
    let text := utf8 ("\x7b\"alternatives\":[\x7b\"score\":80.7,\"interpretations\":" ++
      "[\x7b\"score\":1e300\x7d,\x7b\"score\":\"7\"\x7d]\x7d],\"segment_index\":3\x7d")
    ∃ j, Json.parse text = some j ∧
      List.Forall₂ (fun a => Scored a.confidence) (ofJson j "").alternatives
        (j.elementsOf "alternatives") ∧
      Numbered (PartialResult.ofJson j).segment j ∧
      (ofJson j "").alternatives.map (fun a =>
        (a.confidence.toInt, a.interpretations.map (·.confidence.toInt))) = [(80, [-1, 0])] ∧
      (PartialResult.ofJson j).segment.toInt = 3 := by
  intro text
  have read : ((Json.parse text).map fun j => ((ofJson j "").alternatives.map fun a =>
        (a.confidence.toInt, a.interpretations.map (·.confidence.toInt)),
        (PartialResult.ofJson j).segment.toInt)) =
      some ([(80, [-1, 0])], 3) := by
    decide +kernel
  obtain ⟨j, parsed, decoded⟩ := Option.map_eq_some_iff.1 read
  obtain ⟨confidences, segment⟩ := Prod.mk.inj decoded
  obtain ⟨scored, numbered, -⟩ := scored_ofJson parsed ""
  refine ⟨j, parsed, ?_, numbered, confidences, segment⟩
  rw [Json.elementsOf_eq]
  exact scored.imp fun a e all => all.1

/-- A score beyond 32 bits becomes a smaller confidence than one within them, and neither it nor the
number of the segment becomes the greatest integer of 32 bits. -/
theorem confidence_of_wide_score :
    let text := utf8 ("\x7b\"alternatives\":[\x7b\"text\":\"a\",\"score\":4294967387\x7d," ++
      "\x7b\"text\":\"b\",\"score\":95\x7d],\"segment_index\":4294967299\x7d")
    ∃ j, Json.parse text = some j ∧
      (j.elementsOf "alternatives").map (fun e => (e.get? "score").bind Json.asInt?) =
        [some 4294967387, some 95] ∧
      (j.get? "segment_index").bind Json.asInt? = some 4294967299 ∧
      (ofJson j "").alternatives.map (·.confidence.toInt) = [91, 95] ∧
      (PartialResult.ofJson j).segment.toInt = 3 ∧
      held 32 4294967387 = 2147483647 ∧ held 32 4294967299 = 2147483647 := by
  intro text
  have read : ((Json.parse text).map fun j =>
        ((j.elementsOf "alternatives").map (fun e => (e.get? "score").bind Json.asInt?),
        (j.get? "segment_index").bind Json.asInt?,
        (ofJson j "").alternatives.map (·.confidence.toInt),
        (PartialResult.ofJson j).segment.toInt)) =
      some ([some 4294967387, some 95], some 4294967299, [91, 95], 3) := by
    decide +kernel
  obtain ⟨j, parsed, decoded⟩ := Option.map_eq_some_iff.1 read
  simp only [Prod.mk.injEq] at decoded
  obtain ⟨scores, index, confidences, segment⟩ := decoded
  exact ⟨j, parsed, scores, index, confidences, segment, by decide, by decide⟩

end SegmentResult

end SpeechClient
