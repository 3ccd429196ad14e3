import Mathlib.Data.List.Chain
import SpeechClient.Proofs.Number.Order
import SpeechClient.Result.Basic

/-!
# The time order of words

The words of an alternative are to last some time each, and to start one after another.  A word is
taken unless a comparison speaks against it; with a NaN among the times no comparison does, so a
word with such a time is taken although it lasts no time, and the word behind it may start
anywhere.  Where the times are numbers, the words are in order.

- `Words.InOrder`: the order that the words of an alternative are to have.
- `Words.Unopposed`: what taking a word keeps, whatever its times are.
- `Alternative.inOrder_pushWords_iff`: the words that were taken are in order as far as their times
  are numbers, and no further.
-/

namespace SpeechClient

/-- Both times of the word are numbers. -/
structure Word.Timed (w : Word) : Prop where
  startTime : w.startTime.isNaN = false
  endTime : w.endTime.isNaN = false

namespace Words

/-- Each word ends after it starts, and none starts before one that stands before it. -/
structure InOrder (words : List Word) : Prop where
  lasting : ∀ w ∈ words, w.startTime.lt w.endTime = true
  rising : words.Pairwise fun u w => u.startTime.le w.startTime = true

/-- No word is found to end when it starts or earlier, nor to start before the one next to it. -/
structure Unopposed (words : List Word) : Prop where
  lasting : ∀ w ∈ words, w.endTime.le w.startTime = false
  rising : words.IsChain fun u w => w.startTime.lt u.startTime = false

variable {words block : List Word}

theorem InOrder.timed (ordered : InOrder words) : ∀ w ∈ words, w.Timed := by
  intro w member
  obtain ⟨startTime, endTime, -⟩ := Double.lt_iff.1 (ordered.lasting w member)
  exact ⟨startTime, endTime⟩

theorem Unopposed.of_infix (unopposed : Unopposed words) (part : block <:+: words) :
    Unopposed block :=
  ⟨fun w member => unopposed.lasting w (part.subset member), unopposed.rising.infix part⟩

/-- Between numbers a comparison that fails says that the opposite one holds. -/
theorem Unopposed.inOrder (unopposed : Unopposed words) (timed : ∀ w ∈ words, w.Timed) :
    InOrder words where
  lasting w member := by
    have number := timed w member
    simpa [number.startTime, number.endTime] using
      Double.le_eq_false_iff.1 (unopposed.lasting w member)
  -- neighbours only were compared; between numbers that carries over to all pairs
  rising := by
    let NotBefore (u w : Word) : Prop := u.startTime.le w.startTime = true
    have : IsTrans Word NotBefore := ⟨fun _ _ _ => Double.le_trans⟩
    have chain : words.IsChain NotBefore :=
      unopposed.rising.imp_of_mem_imp fun u w first second late => by
        simpa [(timed u first).startTime, (timed w second).startTime] using
          Double.lt_eq_false_iff.1 late
    exact List.isChain_iff_pairwise.1 chain

theorem Unopposed.inOrder_iff (unopposed : Unopposed words) :
    InOrder words ↔ ∀ w ∈ words, w.Timed :=
  ⟨InOrder.timed, unopposed.inOrder⟩

theorem unopposed_concat {w : Word} :
    Unopposed (words ++ [w]) ↔ Unopposed words ∧ w.endTime.le w.startTime = false ∧
      ∀ u ∈ words.getLast?, w.startTime.lt u.startTime = false := by
  constructor
  · rintro ⟨lasting, rising⟩
    obtain ⟨before, -, next⟩ := List.isChain_append.1 rising
    exact ⟨⟨fun u member => lasting u (List.mem_append_left _ member), before⟩,
      lasting w (by simp), fun u last => next u last w rfl⟩
  · rintro ⟨⟨lasting, rising⟩, lasts, next⟩
    refine ⟨?_, List.isChain_append.2 ⟨rising, .singleton w, ?_⟩⟩
    · simpa [or_imp, forall_and] using ⟨lasting, lasts⟩
    · rintro u last _ ⟨⟩
      exact next u last

end Words

namespace Alternative

open Words

variable {a : Alternative} {w : Word}

def pushWords (a : Alternative) (words : List Word) : Alternative :=
  words.foldl pushWord a

theorem pushWords_cons (a : Alternative) (w : Word) (words : List Word) :
    a.pushWords (w :: words) = (a.pushWord w).pushWords words :=
  rfl

theorem accepts_iff : a.accepts w = true ↔ w.endTime.le w.startTime = false ∧
    ∀ u ∈ a.words.getLast?, w.startTime.lt u.startTime = false := by
  unfold accepts lasts follows
  cases a.words.getLast? <;> simp

theorem pushWord_of_accepts (accepted : a.accepts w = true) :
    (a.pushWord w).words = a.words ++ [w] := by
  rw [pushWord, if_pos accepted]

theorem pushWord_of_refused (refused : a.accepts w = false) : a.pushWord w = a := by
  rw [pushWord, if_neg (by simp [refused])]

theorem words_pushWord_cases (a : Alternative) (w : Word) :
    a.accepts w = true ∧ (a.pushWord w).words = a.words ++ [w] ∨
      a.accepts w = false ∧ (a.pushWord w).words = a.words := by
  cases accepted : a.accepts w with
  | true => exact .inl ⟨rfl, pushWord_of_accepts accepted⟩
  | false => exact .inr ⟨rfl, by rw [pushWord_of_refused accepted]⟩

theorem unopposed_pushWord (unopposed : Unopposed a.words) (w : Word) :
    Unopposed (a.pushWord w).words := by
  obtain ⟨accepted, words⟩ | ⟨-, words⟩ := words_pushWord_cases a w
  · rw [words, unopposed_concat]
    exact ⟨unopposed, accepts_iff.1 accepted⟩
  · rwa [words]

theorem unopposed_pushWords (unopposed : Unopposed a.words) (pushed : List Word) :
    Unopposed (a.pushWords pushed).words := by
  induction pushed generalizing a with
  | nil => exact unopposed
  | cons w pushed after =>
    rw [pushWords_cons]
    exact after (unopposed_pushWord unopposed w)

theorem exists_words_pushWords (a : Alternative) (pushed : List Word) :
    ∃ taken, taken.Sublist pushed ∧ (a.pushWords pushed).words = a.words ++ taken := by
  induction pushed generalizing a with
  | nil => exact ⟨[], .slnil, (List.append_nil _).symm⟩
  | cons w pushed after =>
    obtain ⟨taken, among, rest⟩ := after (a.pushWord w)
    rw [pushWords_cons, rest]
    obtain ⟨-, words⟩ | ⟨-, words⟩ := words_pushWord_cases a w
    · exact ⟨w :: taken, among.cons_cons w, by rw [words, List.append_assoc, List.singleton_append]⟩
    · exact ⟨taken, among.cons w, by rw [words]⟩

/-- The two conditions on a word, put to all words before it. -/
theorem accepts_of_fits (lasts : w.startTime.lt w.endTime = true)
    (follows : ∀ u ∈ a.words, u.startTime.le w.startTime = true) : a.accepts w = true := by
  refine accepts_iff.2 ⟨Double.le_eq_false_of_lt lasts, fun u last => ?_⟩
  exact Double.lt_eq_false_iff.2 (.inr (.inr (follows u (List.mem_of_getLast? last))))

/-- Where all times are numbers, nothing else is taken. -/
theorem accepts_iff_of_timed (unopposed : Unopposed a.words) (timed : ∀ u ∈ a.words, u.Timed)
    (number : w.Timed) :
    a.accepts w = true ↔ w.startTime.lt w.endTime = true ∧
      ∀ u ∈ a.words, u.startTime.le w.startTime = true := by
  refine ⟨fun accepted => ?_, fun fits => accepts_of_fits fits.1 fits.2⟩
  -- the list with the word is in order as well, and that compares the word with all the others
  have all : ∀ u ∈ a.words ++ [w], u.Timed := by
    simpa [or_imp, forall_and] using ⟨timed, number⟩
  have ordered := (unopposed_concat.2 ⟨unopposed, accepts_iff.1 accepted⟩).inOrder all
  obtain ⟨-, -, before⟩ := List.pairwise_append.1 ordered.rising
  exact ⟨ordered.lasting w (by simp), fun u member => before u member w (by simp)⟩

/-- Of the words that are pushed one after another onto a new alternative some are taken.  Each
stretch of these is in order exactly if the times in it are numbers: so all of them are, if no time
is a NaN.  A word is taken or changes nothing; one that fits all words before it is taken, and where
all times are numbers no other is. -/
theorem inOrder_pushWords_iff (text : String) (confidence : Int32) (pushed : List Word) :
    let a := pushWords { text, confidence } pushed
    a.words.Sublist pushed ∧
    (∀ block, block <:+: a.words → (InOrder block ↔ ∀ w ∈ block, w.Timed)) ∧
    (∀ w, if a.accepts w then (a.pushWord w).words = a.words ++ [w] else a.pushWord w = a) ∧
    (∀ w, w.startTime.lt w.endTime = true →
      (∀ u ∈ a.words, u.startTime.le w.startTime = true) → a.accepts w = true) ∧
    ((∀ u ∈ a.words, u.Timed) → ∀ w, w.Timed → a.accepts w = true →
      w.startTime.lt w.endTime = true ∧ ∀ u ∈ a.words, u.startTime.le w.startTime = true) := by
  intro a
  have unopposed : Unopposed a.words :=
    unopposed_pushWords ⟨List.forall_mem_nil _, .nil⟩ pushed
  obtain ⟨taken, among, words⟩ := exists_words_pushWords { text, confidence } pushed
  refine ⟨?_, fun block part => (unopposed.of_infix part).inOrder_iff, fun w => ?_,
    fun w => accepts_of_fits, fun timed w number => (accepts_iff_of_timed unopposed timed number).1⟩
  · rw [words]
    exact among
  · split
    next accepted => exact pushWord_of_accepts accepted
    next refused => exact pushWord_of_refused (by simpa using refused)

/-- A word whose times are no numbers lasts no time, and is taken; the word that is pushed next is
taken as well, although it starts before the first. -/
theorem unordered_of_nan :
    let word (startTime endTime : UInt64) : Word :=
      { text := "w", confidence := 50, startTime := ⟨startTime⟩, endTime := ⟨endTime⟩ }
    let first := word 0x4000000000000000 0x4008000000000000
    let untimed := word 0x7ff8000000000000 0x7ff8000000000000
    let last := word 0 0x3ff0000000000000
    let a := pushWords { text := "w w w", confidence := 50 } [first, untimed, last]
    a.words = [first, untimed, last] ∧ untimed.startTime.lt untimed.endTime = false ∧
      first.startTime.le last.startTime = false := by
  decide +kernel

end Alternative

end SpeechClient
