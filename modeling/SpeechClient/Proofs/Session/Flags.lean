import SpeechClient.Proofs.Session.Reports

/-!
# The truth values of a result

The body of a result may say for itself whether the result is final and whether a further segment
follows.  The older protocol knows no such members: it reads a body as the present one reads it with
them taken out.  Nothing else of a body is read under their names.

- `Json.without`, `Json.AgreeSave`: a value with members taken out, and values that agree on the
  rest.
- `Inbound.flagNames`: the names of the two members.
- `Wire.Frame.AlikeSaveBody`: frames with the same command and headers.
- `Inbound.classify_without_flags`: what both protocols make of a result.
-/

namespace SpeechClient

open Wire

namespace Json

def without (names : List String) : Json → Json
  | .object members => .object (members.filter fun member => !names.contains member.1)
  | j => j

theorem lookup_without (names : List String) (name : String) (members : List (String × Json)) :
    (members.filter fun member => !names.contains member.1).lookup name =
      if name ∈ names then none else members.lookup name := by
  induction members with
  | nil => simp
  | cons member rest after =>
    obtain ⟨other, value⟩ := member
    by_cases taken : other ∈ names
    · by_cases here : name = other
      · subst here
        simpa [taken] using after
      · have elsewhere : (name == other) = false := by simpa using here
        simpa [taken, List.lookup_cons, elsewhere] using after
    · by_cases here : name = other
      · subst here
        simp [taken]
      · have elsewhere : (name == other) = false := by simpa using here
        simpa [taken, List.lookup_cons, elsewhere] using after

theorem get?_without (names : List String) (name : String) (j : Json) :
    (j.without names).get? name = if name ∈ names then none else j.get? name := by
  cases j with
  | object members => exact lookup_without names name members
  | _ => simp [without, get?]

/-- Whatever is looked up in both is the same, save under these names. -/
def AgreeSave (names : List String) (a b : Json) : Prop :=
  ∀ name, name ∉ names → a.get? name = b.get? name

/-- The members of an object that holds nothing but truth values. -/
def truths? : Json → Option (List (String × Bool))
  | .object members => members.mapM fun (name, value) => value.asBool?.map (name, ·)
  | _ => none

theorem members_of_truths (members : List (String × Json)) (truths : List (String × Bool))
    (read : (members.mapM fun (name, value) => value.asBool?.map (name, ·)) = some truths) :
    members = truths.map fun (name, truth) => (name, .bool truth) := by
  induction members generalizing truths with
  | nil =>
    cases read
    rfl
  | cons member rest after =>
    obtain ⟨name, value⟩ := member
    cases value with
    | bool truth =>
      simp only [List.mapM_cons, asBool?, Option.map_some, Option.bind_eq_bind, Option.bind_some,
        Option.bind_eq_some_iff] at read
      obtain ⟨more, further, same⟩ := read
      cases same
      rw [after more further]
      rfl
    | _ => cases read

/-- What a text of truth values is read as can be checked by computing. -/
theorem parse_of_truths {text : Bytes} {truths : List (String × Bool)}
    (read : (parse text).bind truths? = some truths) :
    parse text = some (.object (truths.map fun (name, truth) => (name, .bool truth))) := by
  obtain ⟨j, parsed, read⟩ := Option.bind_eq_some_iff.mp read
  cases j with
  | object members => rw [parsed, members_of_truths members truths read]
  | _ => cases read

variable {names : List String} {a b : Json} {name : String}

theorem agreeSave_without (names : List String) (j : Json) :
    AgreeSave names (j.without names) j := by
  intro name other
  rw [get?_without, if_neg other]

theorem AgreeSave.symm (agree : AgreeSave names a b) : AgreeSave names b a :=
  fun name other => (agree name other).symm

theorem AgreeSave.refl (names : List String) (j : Json) : AgreeSave names j j :=
  fun _ _ => rfl

theorem AgreeSave.elementsOf (agree : AgreeSave names a b) (other : name ∉ names) :
    a.elementsOf name = b.elementsOf name := by
  simp only [Json.elementsOf, agree name other]

theorem AgreeSave.doubleOf? (agree : AgreeSave names a b) (other : name ∉ names) :
    a.doubleOf? name = b.doubleOf? name := by
  simp only [Json.doubleOf?, agree name other]

end Json

namespace Inbound

/-- The members of a body that say whether a result is final, and the last. -/
def flagNames : List String := ["final_result", "last_segment"]

variable {a b : Json}

theorem segmentResult_congr (agree : Json.AgreeSave flagNames a b) (status : String) :
    SegmentResult.ofJson a status = SegmentResult.ofJson b status := by
  have named : a.get? "result_status" = b.get? "result_status" := agree _ (by decide)
  have alternatives : a.elementsOf "alternatives" = b.elementsOf "alternatives" :=
    agree.elementsOf (by decide)
  have startTime : a.doubleOf? "start_time" = b.doubleOf? "start_time" :=
    agree.doubleOf? (by decide)
  have endTime : a.doubleOf? "end_time" = b.doubleOf? "end_time" := agree.doubleOf? (by decide)
  simp only [SegmentResult.ofJson, named, alternatives, startTime, endTime]

theorem partialResult_congr (agree : Json.AgreeSave flagNames a b) :
    PartialResult.ofJson a = PartialResult.ofJson b := by
  have alternatives : a.elementsOf "alternatives" = b.elementsOf "alternatives" :=
    agree.elementsOf (by decide)
  have segment : a.get? "segment_index" = b.get? "segment_index" := agree _ (by decide)
  simp only [PartialResult.ofJson, alternatives, segment]

/-- The body says of neither truth value what it is. -/
def Unflagged (j : Json) : Prop :=
  ∀ name ∈ flagNames, (j.get? name).bind Json.asBool? = none

theorem unflagged_without (j : Json) : Unflagged (j.without flagNames) := by
  intro name member
  rw [Json.get?_without, if_pos member]
  rfl

@[simp] theorem flag_legacy (name : String) (absent : Bool) (j : Json) :
    flag .legacy name absent j = absent := rfl

/-- The older protocol has no flags, and the present one takes what it takes where it finds none. -/
theorem flag_of_unflagged (unflagged : Unflagged a) (name : String) (member : name ∈ flagNames)
    (protocol : ServerProtocol) (absent : Bool) : flag protocol name absent a = absent := by
  cases protocol with
  | legacy => rfl
  | current => simp only [flag, unflagged name member, Option.getD_none]

/-- What the older protocol makes of a body, the other makes of one that agrees with it on all but
the flags and has none. -/
theorem outcomeOfBody_of_unflagged (agree : Json.AgreeSave flagNames a b) (unflagged : Unflagged b)
    (protocol : ServerProtocol) (status : String) :
    outcomeOfBody .legacy status a = outcomeOfBody protocol status b := by
  have final := flag_of_unflagged unflagged "final_result" (by decide) protocol
    (status == ResultCode.recognized.name)
  have last := flag_of_unflagged unflagged "last_segment" (by decide) protocol true
  simp only [outcomeOfBody, final, last, flag_legacy, segmentResult_congr agree,
    partialResult_congr agree]

end Inbound

namespace Wire.Frame

/-- The same command with the same headers, save for the length of the body. -/
structure AlikeSaveBody (f g : Frame) : Prop where
  command : f.command = g.command
  headers : ∀ key, key ≠ Key.contentLength → f.header? key = g.header? key

variable {f g : Frame}

theorem AlikeSaveBody.refl (f : Frame) : f.AlikeSaveBody f :=
  ⟨rfl, fun _ _ => rfl⟩

theorem AlikeSaveBody.trans {h : Frame} (first : f.AlikeSaveBody g) (second : g.AlikeSaveBody h) :
    f.AlikeSaveBody h :=
  ⟨first.command.trans second.command,
    fun key other => (first.headers key other).trans (second.headers key other)⟩

/-- Frames that had their bodies set on one frame. -/
theorem alikeSaveBody_setBody (f : Frame) (first second : Bytes) :
    (f.setBody first).AlikeSaveBody (f.setBody second) := by
  refine ⟨rfl, fun key other => ?_⟩
  simp [header?, setBody, setHeader, other]

end Wire.Frame

namespace Inbound

variable {f g : Frame} {j k : Json} {protocol other : ServerProtocol}

theorem headerValue_congr (alike : f.AlikeSaveBody g) {key : Bytes}
    (named : key ≠ Key.contentLength) : headerValue f key = headerValue g key := by
  rw [headerValue, alike.headers key named, headerValue]

/-- A frame is classified by its command, by its trimmed values, and by the outcome that its body
reports. -/
theorem classify_congr (command : f.command = g.command)
    (value : ∀ key, key ≠ Key.contentLength → headerValue f key = headerValue g key)
    (outcome : outcomeOf protocol f = outcomeOf other g) :
    classify protocol f = classify other g := by
  have method : f.method? = g.method? := congrArg Method.ofOctets? command
  have response : ofResponse f = ofResponse g := by
    simp only [ofResponse, replyStatus, value Key.method (by decide +kernel),
      value Key.result (by decide +kernel), value Key.message (by decide +kernel),
      value Key.errorCode (by decide +kernel), value Key.sessionStatus (by decide +kernel)]
  have result : ofResult protocol f = ofResult other g := by
    simp only [ofResult, value Key.sessionStatus (by decide +kernel), outcome]
  have time : speechTime f = speechTime g := by
    simp only [speechTime, value Key.timestamp (by decide +kernel)]
  simp only [classify, method, response, result, time]

theorem outcomeOf_of_parse (read : Json.parse f.body = some j) (protocol : ServerProtocol) :
    outcomeOf protocol f =
      let status := (headerValue f Key.resultStatus).text
      if status == ResultCode.canceled.name then .ok .canceled
      else .ok (outcomeOfBody protocol status j) := by
  have filled : f.body.isEmpty = false := by
    cases body : f.body with
    | nil =>
      have unread : Json.parse [] = none := by decide +kernel
      rw [body, unread] at read
      cases read
    | cons first rest => rfl
  simp only [outcomeOf, filled, read, Bool.false_eq_true, if_false]

/-- A frame as the older protocol reads it, next to one without flags as either reads it. -/
theorem classify_of_unflagged (alike : f.AlikeSaveBody g) (read : Json.parse f.body = some j)
    (other : Json.parse g.body = some k) (agree : Json.AgreeSave flagNames j k)
    (unflagged : Unflagged k) (protocol : ServerProtocol) :
    classify .legacy f = classify protocol g := by
  have status : headerValue f Key.resultStatus = headerValue g Key.resultStatus :=
    headerValue_congr alike (by decide +kernel)
  refine classify_congr alike.command (fun _ => headerValue_congr alike) ?_
  rw [outcomeOf_of_parse read, outcomeOf_of_parse other, status]
  simp only [outcomeOfBody_of_unflagged agree unflagged protocol]

theorem outcomeOf_of_classify {idle : Bool} {outcome : Outcome}
    (classified : classify protocol f = some (.ok (.result idle outcome))) :
    outcomeOf protocol f = .ok outcome := by
  unfold classify at classified
  split at classified
  · cases classified
  · simp only [ofResult, Option.some.injEq] at classified
    cases reported : outcomeOf protocol f with
    | error fault => simp [reported, Except.map] at classified
    | ok found =>
      simp only [reported, Except.map, Except.ok.injEq, Inbound.result.injEq] at classified
      rw [classified.2]
  · cases classified
  · cases classified
  · cases classified

theorem last_of_outcomeOfBody_legacy {status : String} {r : SegmentResult} {last : Bool}
    (final : outcomeOfBody .legacy status j = .final r last) : last = true := by
  unfold outcomeOfBody at final
  split at final
  · exact (Outcome.final.inj final).2.symm
  · cases final

/-- Under the older protocol no segment follows on a final result. -/
theorem last_of_outcomeOf_legacy {r : SegmentResult} {last : Bool}
    (final : outcomeOf .legacy f = .ok (.final r last)) : last = true := by
  unfold outcomeOf at final
  extract_lets status at final
  by_cases canceled : status == ResultCode.canceled.name
  · rw [if_pos canceled] at final
    cases final
  · rw [if_neg canceled] at final
    by_cases empty : f.body.isEmpty
    · rw [if_pos empty] at final
      exact (Outcome.final.inj (Except.ok.inj final)).2.symm
    · rw [if_neg empty] at final
      cases parsed : Json.parse f.body with
      | some j =>
        rw [parsed] at final
        exact last_of_outcomeOfBody_legacy (Except.ok.inj final)
      | none =>
        rw [parsed] at final
        cases final

/-- The older protocol reads a result as the present one reads it without the two flags in its body,
and so do both read it where the flags are no truth values.  So under the older protocol nothing
hangs on the flags, and a final result is the last segment. -/
theorem classify_without_flags {f g : Frame} {j : Json} (alike : f.AlikeSaveBody g)
    (read : Json.parse f.body = some j) (bare : Json.parse g.body = some (j.without flagNames)) :
    classify .legacy f = classify .current g ∧ classify .legacy g = classify .current g ∧
    (Unflagged j → classify .current f = classify .legacy f) ∧
    (∀ (h : Frame) (k : Json), h.AlikeSaveBody f → Json.parse h.body = some k →
      k.without flagNames = j.without flagNames → classify .legacy h = classify .legacy f) ∧
    ∀ (h : Frame) idle r last, classify .legacy h = some (.ok (.result idle (.final r last))) →
      last = true ∧ r.lastSegment = true := by
  have agree := Json.agreeSave_without flagNames j
  have none := unflagged_without j
  refine ⟨classify_of_unflagged alike read bare agree.symm none .current,
    classify_of_unflagged (.refl g) bare bare (.refl _ _) none .current, fun unflagged => ?_,
    ?_, ?_⟩
  · exact (classify_of_unflagged (.refl f) read read (.refl _ _) unflagged .current).symm
  · intro h k similar other same
    -- Both are read as the body that is left of either.
    have apart : Json.AgreeSave flagNames k (j.without flagNames) :=
      same ▸ (Json.agreeSave_without flagNames k).symm
    rw [classify_of_unflagged (similar.trans alike) other bare apart none .legacy,
      classify_of_unflagged alike read bare agree.symm none .legacy]
  · intro h idle r last classified
    have final := last_of_outcomeOf_legacy (outcomeOf_of_classify classified)
    have same : last = r.lastSegment := classify_consistent classified
    exact ⟨final, same.symm.trans final⟩

/-- A body says that the result is not final, and that a segment follows: the older protocol does
not hear of it. -/
theorem classify_without_flags_intermediate :
    let head (body : String) : Frame :=
      ((Frame.request .recognitionResult).setHeader Key.resultStatus (utf8 " RECOGNIZED ")).setBody
        (utf8 body)
    let f := head "\x7b\"final_result\":false,\"last_segment\":false\x7d"
    let g := head "\x7b\x7d"
    f.AlikeSaveBody g ∧ classify .legacy f = classify .current g ∧
      classify .current f ≠ classify .legacy f := by
  intro head f g
  have alike : f.AlikeSaveBody g := Frame.alikeSaveBody_setBody _ _ _
  have read : (Json.parse f.body).bind Json.truths? =
      some [("final_result", false), ("last_segment", false)] := by
    decide +kernel
  have bare : (Json.parse g.body).bind Json.truths? = some [] := by decide +kernel
  have read := Json.parse_of_truths read
  have bare := Json.parse_of_truths bare
  exact ⟨alike, (classify_without_flags alike read bare).1, by decide +kernel⟩

end Inbound

end SpeechClient
