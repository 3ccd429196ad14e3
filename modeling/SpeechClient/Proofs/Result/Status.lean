import SpeechClient.Proofs.Json.Members

/-!
# The status of a result and its alternatives

A status names how a recognition came out, or leaves it open: it says that nothing was matched, that
the recognition is still going on, or something that is no known name.  What it leaves open the
alternatives decide: with one there was a recognition, without any there was no match.

- `ResultCode.Undecided`: the statuses that leave it open.
- `SegmentResult.Agrees`: the law between status, code and alternatives.
- `SegmentResult.agrees_ofJson`: what is read from a body keeps to it, and so does a result that
  alternatives are added to.
-/

namespace SpeechClient

namespace ResultCode

theorem ofName?_eq_some_iff {name : String} {code : ResultCode} :
    ofName? name = some code ↔ code.name = name := by
  refine ⟨Vocabulary.name_of_ofName?, ?_⟩
  rintro rfl
  cases code <;> decide

theorem ofName?_eq_none_iff {name : String} :
    ofName? name = none ↔ ∀ code : ResultCode, code.name ≠ name := by
  simp only [Option.eq_none_iff_forall_ne_some, ne_eq, ofName?_eq_some_iff]

/-- The name leaves it to the alternatives whether anything was recognized. -/
def Undecided (name : String) : Prop :=
  name = "NO_MATCH" ∨ name = "PROCESSING" ∨ ∀ code : ResultCode, code.name ≠ name

theorem name_inj (code other : ResultCode) : code.name = other.name ↔ code = other := by
  rw [← ofName?_eq_some_iff, ofName?_eq_some_iff.2 rfl, Option.some.injEq, eq_comm]

theorem undecided_name_iff (code : ResultCode) :
    Undecided code.name ↔ code = .noMatch ∨ code = .processing := by
  have noMatch : code.name = "NO_MATCH" ↔ code = .noMatch := name_inj code .noMatch
  have processing : code.name = "PROCESSING" ↔ code = .processing :=
    name_inj code .processing
  have known : ¬∀ other : ResultCode, other.name ≠ code.name := fun unknown => unknown code rfl
  rw [Undecided, noMatch, processing]
  simp [known]

/-- A status that leaves nothing open stands for the code of its name, any other for no match. -/
theorem ofStatus_cases (status : String) :
    Undecided (Text.trim status) ∧ ofStatus status = .noMatch ∨
      ¬Undecided (Text.trim status) ∧ (ofStatus status).name = Text.trim status := by
  unfold ofStatus
  cases named : ofName? (Text.trim status) with
  | none => exact .inl ⟨.inr (.inr (ofName?_eq_none_iff.1 named)), rfl⟩
  | some code =>
    rw [← ofName?_eq_some_iff.1 named, undecided_name_iff]
    cases code <;> simp

theorem ofStatus_eq_noMatch_iff {status : String} :
    ofStatus status = .noMatch ↔ Undecided (Text.trim status) := by
  obtain ⟨undecided, open'⟩ | ⟨decided, name⟩ := ofStatus_cases status
  · simp [undecided, open']
  · refine ⟨fun same => ?_, fun undecided => (decided undecided).elim⟩
    rw [← name, same]
    exact .inl rfl

end ResultCode

namespace SegmentResult

/-- The code follows from the status and the alternatives. -/
structure Agrees (status : String) (r : SegmentResult) : Prop where
  noMatch : r.code = .noMatch ↔
    ResultCode.Undecided (Text.trim status) ∧ r.alternatives = []
  recognized : r.code = .recognized ↔ Text.trim status = "RECOGNIZED" ∨
    ResultCode.Undecided (Text.trim status) ∧ r.alternatives ≠ []
  decided : ¬ResultCode.Undecided (Text.trim status) → r.code.name = Text.trim status
  finished : r.code ≠ .processing

def pushAlternatives (r : SegmentResult) (alternatives : List Alternative) : SegmentResult :=
  alternatives.foldl pushAlternative r

theorem pushAlternatives_cons (r : SegmentResult) (a : Alternative)
    (alternatives : List Alternative) :
    r.pushAlternatives (a :: alternatives) = (r.pushAlternative a).pushAlternatives alternatives :=
  rfl

variable {r : SegmentResult} {status : String}

theorem alternatives_pushAlternatives (r : SegmentResult) (alternatives : List Alternative) :
    (r.pushAlternatives alternatives).alternatives = r.alternatives ++ alternatives := by
  induction alternatives generalizing r with
  | nil => exact (List.append_nil _).symm
  | cons a alternatives after =>
    rw [pushAlternatives_cons, after, pushAlternative, List.append_assoc, List.singleton_append]

theorem code_pushAlternatives (r : SegmentResult) (alternatives : List Alternative) :
    (r.pushAlternatives alternatives).code =
      if r.code = .noMatch ∧ alternatives ≠ [] then .recognized else r.code := by
  induction alternatives generalizing r with
  | nil => simp [pushAlternatives]
  | cons a alternatives after =>
    rw [pushAlternatives_cons, after]
    -- only the first alternative can change the code: after it there is no result without a match
    by_cases unmatched : r.code = .noMatch <;> simp [pushAlternative, unmatched]

/-- Where the status leaves it open, the alternatives are to decide. -/
theorem agrees_of_undecided (undecided : ResultCode.Undecided (Text.trim status))
    (promoted : r.code = if r.alternatives = [] then .noMatch else .recognized) :
    r.Agrees status := by
  have other : Text.trim status ≠ "RECOGNIZED" := by
    intro same
    rw [same] at undecided
    have recognized := (ResultCode.undecided_name_iff .recognized).1 undecided
    simp at recognized
  constructor
  · rw [promoted]
    by_cases none : r.alternatives = [] <;> simp [none, undecided]
  · rw [promoted]
    by_cases none : r.alternatives = [] <;> simp [none, undecided, other]
  · exact fun decided => (decided undecided).elim
  · rw [promoted]
    split <;> simp

/-- Where the status leaves nothing open, its name is to be that of the code. -/
theorem agrees_of_decided (decided : ¬ResultCode.Undecided (Text.trim status))
    (name : r.code.name = Text.trim status) : r.Agrees status := by
  have settled : ¬(r.code = .noMatch ∨ r.code = .processing) := by
    rwa [← name, ResultCode.undecided_name_iff] at decided
  obtain ⟨matched, finished⟩ := not_or.1 settled
  have recognized : r.code = .recognized ↔ Text.trim status = "RECOGNIZED" := by
    rw [← name]
    exact (ResultCode.name_inj r.code .recognized).symm
  constructor
  · simp [matched, decided]
  · simp [recognized, decided]
  · exact fun _ => name
  · exact finished

theorem agrees_pushAlternatives (status : String) (alternatives : List Alternative) :
    ((ofStatus status).pushAlternatives alternatives).Agrees status := by
  have code : ((ofStatus status).pushAlternatives alternatives).code =
      if ResultCode.ofStatus status = .noMatch ∧ alternatives ≠ [] then .recognized
      else ResultCode.ofStatus status := code_pushAlternatives _ _
  have all : ((ofStatus status).pushAlternatives alternatives).alternatives = alternatives :=
    alternatives_pushAlternatives _ _
  obtain ⟨undecided, noMatch⟩ | ⟨decided, name⟩ := ResultCode.ofStatus_cases status
  · refine agrees_of_undecided undecided ?_
    rw [code, noMatch, all]
    by_cases none : alternatives = [] <;> simp [none]
  · have matched : ResultCode.ofStatus status ≠ .noMatch :=
      fun same => decided (ResultCode.ofStatus_eq_noMatch_iff.1 same)
    refine agrees_of_decided decided ?_
    rw [code, if_neg fun both => matched both.1, name]

/-- What is read from a body has one alternative for each element of its array, and a code that
agrees with them and with the status, which is the body's if it names one as a text and the
header's if not.  The same holds of a result with a status to which alternatives are added; the text
of the first is its best. -/
theorem agrees_ofJson (j : Json) (status : String) :
    let r := SegmentResult.ofJson j status
    r.alternatives = (match j.get? "alternatives" with
      | some (.array elements) => elements
      | _ => []).map Alternative.ofJson ∧
    r.Agrees (match j.get? "result_status" with
      | some (.string s) => s
      | _ => status) ∧
    ∀ alternatives : List Alternative,
      let pushed := (ofStatus status).pushAlternatives alternatives
      pushed.alternatives = alternatives ∧ pushed.Agrees status ∧
        pushed.bestText? = alternatives.head?.map (·.text) := by
  intro r
  let named := ((j.get? "result_status").bind Json.asString?).getD status
  have base : named = match j.get? "result_status" with
      | some (.string s) => s
      | _ => status := by
    unfold named
    rcases j.get? "result_status" with _ | (_ | _ | _ | _ | _ | _) <;> rfl
  let decoded := (j.elementsOf "alternatives").map Alternative.ofJson
  have alternatives : r.alternatives = decoded := alternatives_pushAlternatives _ _
  have agrees : ((ofStatus named).pushAlternatives decoded).Agrees named :=
    agrees_pushAlternatives _ _
  refine ⟨alternatives.trans (congrArg _ (Json.elementsOf_eq "alternatives" j)), ?_, fun more => ?_⟩
  · rw [← base]
    exact ⟨agrees.noMatch, agrees.recognized, agrees.decided, agrees.finished⟩
  · have all : ((ofStatus status).pushAlternatives more).alternatives = more :=
      alternatives_pushAlternatives _ _
    exact ⟨all, agrees_pushAlternatives status more, by rw [bestText?, all]⟩

end SegmentResult

end SpeechClient
