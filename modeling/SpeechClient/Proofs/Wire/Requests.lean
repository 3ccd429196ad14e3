import Mathlib.Data.List.Induction
import SpeechClient.Proofs.Settings.ParameterKeys
import SpeechClient.Proofs.Text.Encoding
import SpeechClient.Proofs.Wire.RoundTrip
import SpeechClient.Session.Request

/-!
# Requests on the wire

What a client sends is built from words of the protocol, from numbers, and from what the application
gives it.  Bodies may hold any octets.  Of the rest only four texts come from the application: the
user agent, and three of the parameters.  A request is read back as it was sent exactly if those in
it are plain.

- `IsPlain`: the texts that a header can carry.
- `Frame.readBack_setBody_iff`, `Frame.readBack_iff_of_bodyless`: when a frame is read back.
- `Request.readBack_iff`: when the requests are.
-/

namespace SpeechClient

open Wire

/-! ## Plain texts -/

/-- A character of header values: a letter or a digit of ASCII, one of nine marks, the colon or the
space. -/
def isPlainChar (c : Char) : Bool :=
  c.isAlphanum || ['-', '/', '.', ',', '_', '(', ')', '<', '>', ':', ' '].contains c

/-- A text that a header can carry. -/
def IsPlain (s : String) : Prop :=
  (∀ c ∈ s.toList, isPlainChar c = true) ∧ s.toList.head? ≠ some ' '

instance (s : String) : Decidable (IsPlain s) :=
  decidable_of_iff (s.toList.all isPlainChar = true ∧ s.toList.head? ≠ some ' ') <| by
    rw [IsPlain, List.all_eq_true]

theorem isValueByte_ofNat {n : Nat} (ascii : n < 128) :
    isValueByte (UInt8.ofNat n) = isPlainChar (Char.ofNat n) := by
  have all : ∀ n < 128, isValueByte (UInt8.ofNat n) = isPlainChar (Char.ofNat n) := by
    decide +kernel
  exact all n ascii

theorem lt_of_isValueByte {b : UInt8} (value : isValueByte b = true) : b.toNat < 128 := by
  have all : ∀ n < 256, isValueByte (UInt8.ofNat n) = true → n < 128 := by
    decide +kernel
  refine all b.toNat b.toNat_lt ?_
  rwa [UInt8.ofNat_toNat]

theorem lt_of_isAlphanum {c : Char} (alphanumeric : c.isAlphanum = true) : c.toNat < 128 := by
  have below {last : UInt32} (bound : c.val ≤ last) (ascii : last.toNat < 128) : c.toNat < 128 :=
    Nat.lt_of_le_of_lt (UInt32.le_iff_toNat_le.1 bound) ascii
  have kinds : (c.isAlpha || c.isDigit) = true := alphanumeric
  obtain letter | digit := Bool.or_eq_true_iff.1 kinds
  · have cases : (c.isUpper || c.isLower) = true := letter
    obtain upper | lower := Bool.or_eq_true_iff.1 cases
    · exact below (of_decide_eq_true upper).2 (by decide)
    · exact below (of_decide_eq_true (Bool.and_eq_true_iff.1 lower).2) (by decide)
  · exact below (of_decide_eq_true (Bool.and_eq_true_iff.1 digit).2) (by decide)

theorem lt_of_isPlainChar {c : Char} (plain : isPlainChar c = true) : c.toNat < 128 := by
  obtain alphanumeric | mark := Bool.or_eq_true_iff.1 plain
  · exact lt_of_isAlphanum alphanumeric
  · have marks : ['-', '/', '.', ',', '_', '(', ')', '<', '>', ':', ' '].all (·.toNat < 128) := by
      decide
    exact of_decide_eq_true (List.all_eq_true.1 marks c (by simpa using mark))

/-- A character is plain if its octets can stand in a header value. -/
theorem forall_isValueByte_iff (c : Char) :
    (∀ b ∈ String.utf8EncodeChar c, isValueByte b = true) ↔ isPlainChar c = true := by
  by_cases ascii : c.toNat < 128
  · rw [utf8EncodeChar_of_ascii ascii, List.forall_mem_singleton, isValueByte_ofNat ascii,
      Char.ofNat_toNat]
  · refine iff_of_false (fun values => ?_) fun plain => ascii (lt_of_isPlainChar plain)
    obtain ⟨b, member, large⟩ := exists_mem_utf8EncodeChar ascii
    have small := lt_of_isValueByte (values b member)
    omega

theorem ofNat_eq_space_iff {c : Char} (ascii : c.toNat < 128) :
    UInt8.ofNat c.toNat = Bytes.space ↔ c = ' ' := by
  constructor
  · intro same
    have code := congrArg UInt8.toNat same
    rw [UInt8.toNat_ofNat', Nat.mod_eq_of_lt (by omega)] at code
    rw [← Char.ofNat_toNat c, code]
    rfl
  · rintro rfl
    rfl

theorem head?_utf8 {s : String} (plain : ∀ c ∈ s.toList, isPlainChar c = true) :
    (utf8 s).head? = some Bytes.space ↔ s.toList.head? = some ' ' := by
  rw [utf8_eq_flatMap]
  cases chars : s.toList with
  | nil => simp
  | cons c rest =>
    have ascii := lt_of_isPlainChar (plain c (by simp [chars]))
    simp [utf8EncodeChar_of_ascii ascii, ofNat_eq_space_iff ascii]

/-- The octets of a text are a header value exactly if the text is plain. -/
theorem isValue_utf8_iff (s : String) : IsValue (utf8 s) ↔ IsPlain s := by
  have chars : (∀ b ∈ utf8 s, isValueByte b = true) ↔ ∀ c ∈ s.toList, isPlainChar c = true := by
    simp only [utf8_eq_flatMap, List.mem_flatMap, ← forall_isValueByte_iff]
    exact ⟨fun all c member b encoded => all b ⟨c, member, encoded⟩,
      fun all b ⟨c, member, encoded⟩ => all c member b encoded⟩
  rw [IsValue, IsPlain, chars]
  exact and_congr_right fun plain => not_congr (head?_utf8 plain)

theorem isPlain_toString (n : Nat) : IsPlain (toString n) := by
  have digits : ∀ c ∈ (toString n).toList, c.isDigit = true := by
    intro c member
    rw [Nat.toString_eq_repr, Nat.toList_repr] at member
    exact Nat.isDigit_of_mem_toDigits (by decide) (by decide) member
  refine ⟨fun c member => ?_, fun head => ?_⟩
  · simp [isPlainChar, Char.isAlphanum, digits c member]
  · exact absurd (digits _ (List.mem_of_head? head)) (by decide)

/-! ## Frames that are read back -/

namespace Wire

namespace Frame

/-- The frame is read back as it was written. -/
def ReadBack (f : Frame) : Prop :=
  parse f.toBytes = .ok f

/-- Version, command and headers are such as the wire can carry. -/
structure Carriable (f : Frame) : Prop where
  version : IsName f.version
  command : IsName f.command
  headers : ∀ key value, f.header? key = some value → IsName key ∧ IsValue value

theorem carriable_request (m : Method) : (request m).Carriable where
  version := by
    have version : IsName protocolVersion := by decide +kernel
    exact version
  command := by cases m <;> decide +kernel
  headers key value found := by simp [request, new, header?] at found

variable {f : Frame}

theorem Carriable.setHeader (carriable : f.Carriable) {key value : Bytes} (name : IsName key)
    (valid : IsValue value) : (f.setHeader key value).Carriable where
  version := carriable.version
  command := carriable.command
  headers other found lookup := by
    rw [header?, Frame.setHeader, Headers.get?_insert] at lookup
    split at lookup
    next same =>
      obtain rfl := Option.some.inj lookup
      exact ⟨same ▸ name, valid⟩
    · exact carriable.headers other found lookup

theorem isNumeral_ofNat (n : Nat) : IsNumeral (Numeral.ofNat n) n :=
  Numeral.natural?_eq_some_iff.1 (Numeral.natural?_ofNat n)

theorem isValue_of_isNumeral {digits : Bytes} {n : Nat} (numeral : IsNumeral digits n) :
    IsValue digits := by
  refine ⟨fun d member => ?_, fun head => ?_⟩
  · simp [isValueByte, isIdentifierByte, Bytes.isAlphanumeric, numeral.2.1 d member]
  · exact space_not_mem_of_isNumeral numeral (List.mem_of_head? head)

/-- A body can be anything, as long as its length is a number of 64 bits. -/
theorem readBack_setBody_iff (carriable : f.Carriable) (body : Bytes) :
    (f.setBody body).ReadBack ↔ body.length < UInt64.size := by
  have numeral := isNumeral_ofNat body.length
  have key : IsName Key.contentLength := by decide +kernel
  have declaring := carriable.setHeader key (isValue_of_isNumeral numeral)
  have declared : (f.setBody body).header? Key.contentLength =
      some (Numeral.ofNat body.length) := by
    simp [setBody, setHeader, header?]
  rw [ReadBack, parse_toBytes_eq_ok_iff]
  constructor
  · intro safe
    have length := safe.length
    rw [declared] at length
    exact length.2
  · intro bound
    refine ⟨declaring.version, declaring.command, declaring.headers, ?_⟩
    rw [declared]
    exact ⟨⟨0, _, 0, by simp, numeral⟩, bound⟩

theorem readBack_iff_of_bodyless (empty : f.body = [])
    (undeclared : f.header? Key.contentLength = none) : f.ReadBack ↔ f.Carriable := by
  rw [ReadBack, parse_toBytes_eq_ok_iff]
  constructor
  · exact fun safe => ⟨safe.version, safe.command, safe.headers⟩
  · intro carriable
    refine ⟨carriable.version, carriable.command, carriable.headers, ?_⟩
    rw [undeclared]
    exact empty

/-! ## Headers set one after another -/

def setAll (entries : List (String × String)) (f : Frame) : Frame :=
  entries.foldl (fun f (key, value) => f.setHeader (utf8 key) (utf8 value)) f

@[simp] theorem setAll_concat (entries : List (String × String)) (key value : String) :
    f.setAll (entries ++ [(key, value)]) = (f.setAll entries).setHeader (utf8 key) (utf8 value) :=
  List.foldl_concat ..

@[simp] theorem setAll_body (entries : List (String × String)) (f : Frame) :
    (f.setAll entries).body = f.body := by
  induction entries using List.reverseRecOn with
  | nil => rfl
  | append_singleton rest last before =>
    rw [setAll_concat]
    exact before

theorem Carriable.setAll {entries : List (String × String)} (carriable : f.Carriable)
    (valid : ∀ e ∈ entries, IsName (utf8 e.1) ∧ IsValue (utf8 e.2)) :
    (f.setAll entries).Carriable := by
  induction entries using List.reverseRecOn with
  | nil => exact carriable
  | append_singleton rest last before =>
    obtain ⟨name, value⟩ := valid last (by simp)
    rw [setAll_concat]
    exact (before fun e member => valid e (by simp [member])).setHeader name value

/-- If no key comes twice, each entry is found. -/
theorem header?_setAll_iff {entries : List (String × String)}
    (distinct : (entries.map Prod.fst).Nodup) (bare : f.headers = .empty) {key value : Bytes} :
    (f.setAll entries).header? key = some value ↔
      ∃ e ∈ entries, key = utf8 e.1 ∧ value = utf8 e.2 := by
  induction entries using List.reverseRecOn with
  | nil => simp [setAll, header?, bare]
  | append_singleton rest last before =>
    obtain ⟨name, text⟩ := last
    rw [List.map_append, List.nodup_append] at distinct
    have others := before distinct.1
    have lookup : (f.setAll (rest ++ [(name, text)])).header? key =
        if key = utf8 name then some (utf8 text) else (f.setAll rest).header? key := by
      rw [setAll_concat]
      exact Headers.get?_insert ..
    rw [lookup]
    split
    next same =>
      -- The last entry hides no other one.
      have absent : ∀ e ∈ rest, key ≠ utf8 e.1 := by
        intro e member again
        have twice := utf8_inj.1 (same.symm.trans again)
        exact distinct.2.2 e.1 (List.mem_map_of_mem member) name (by simp) twice.symm
      constructor
      · rintro ⟨⟩
        exact ⟨(name, text), by simp, same, rfl⟩
      · rintro ⟨e, member, found, rfl⟩
        cases List.mem_append.1 member with
        | inl earlier => exact absurd found (absent e earlier)
        | inr final => rw [List.mem_singleton.1 final]
    next other =>
      rw [others]
      simp [other]

end Frame

end Wire

/-! ## Values of the parameters -/

namespace Parameters

def PlainValues (entries : List (String × String)) : Prop :=
  ∀ e ∈ entries, IsPlain e.2

@[simp] theorem plainValues_append {first second : List (String × String)} :
    PlainValues (first ++ second) ↔ PlainValues first ∧ PlainValues second :=
  List.forall_mem_append

@[simp] theorem plainValues_numberHeader (key : String) (value : UInt32) :
    PlainValues (numberHeader key value) := by
  unfold numberHeader
  split
  · exact List.forall_mem_nil _
  · exact List.forall_mem_singleton.2 (isPlain_toString _)

theorem plainValues_switchHeader (key : String) {word : String} (on : Bool) (plain : IsPlain word) :
    PlainValues (switchHeader key word on) := by
  unfold switchHeader
  split
  · exact List.forall_mem_singleton.2 plain
  · exact List.forall_mem_nil _

@[simp] theorem plainValues_textHeader_iff (key value : String) :
    PlainValues (textHeader key value) ↔ IsPlain value := by
  unfold textHeader
  split
  next empty =>
    obtain rfl := String.isEmpty_iff.1 empty
    exact iff_of_true (List.forall_mem_nil _) (by decide +kernel)
  · exact List.forall_mem_singleton

@[simp] theorem plainValues_levelHeaders (p : Parameters) : PlainValues p.levelHeaders := by
  rw [levelHeaders, plainValues_append]
  refine ⟨plainValues_numberHeader _ _, ?_⟩
  split
  · exact plainValues_numberHeader _ _
  split
  · exact plainValues_numberHeader _ _
  · exact List.forall_mem_nil _

@[simp] theorem plainValues_timeoutHeaders (name : String) (on : Bool) (value : UInt32) :
    PlainValues (timeoutHeaders name on value) := by
  unfold timeoutHeaders
  split
  · have one : IsPlain "1" := by decide +kernel
    exact List.forall_mem_cons.2 ⟨one, plainValues_numberHeader _ _⟩
  · exact List.forall_mem_nil _

/-- Numbers and switches are always plain. -/
theorem plainValues_headers_iff (p : Parameters) : PlainValues p.headers ↔
    IsPlain p.accountTag ∧ IsPlain p.channelIdentifier ∧ IsPlain p.mediaType := by
  have one (key : String) (on : Bool) : PlainValues (switchHeader key "1" on) :=
    plainValues_switchHeader key on (by decide +kernel)
  have yes (key : String) (on : Bool) : PlainValues (switchHeader key "true" on) :=
    plainValues_switchHeader key on (by decide +kernel)
  simp only [headers, plainValues_append, one, yes, plainValues_numberHeader,
    plainValues_levelHeaders, plainValues_timeoutHeaders, plainValues_textHeader_iff, true_and,
    and_assoc]

theorem isName_of_mem_keys {key : String} (member : key ∈ keys) : IsName (utf8 key) := by
  have names : ∀ key ∈ keys, IsName (utf8 key) := by decide +kernel
  exact names key member

theorem contentLength_not_mem_keys {key : String} (member : key ∈ keys) :
    Key.contentLength ≠ utf8 key := by
  have others : ∀ key ∈ keys, Key.contentLength ≠ utf8 key := by decide +kernel
  exact others key member

theorem mem_keys_of_mem_headers {p : Parameters} {e : String × String} (member : e ∈ p.headers) :
    e.1 ∈ keys :=
  p.headers_keys.subset (List.mem_map_of_mem member)

end Parameters

/-- What is sent of a model: its address, or else its grammar. -/
def LanguageModel.text? (m : LanguageModel) : Option String :=
  m.uri?.or m.grammar?

/-! ## Requests -/

namespace Request

open Frame

theorem setParameters_eq (p : Parameters) :
    setParameters p = (Frame.request .setParameters).setAll p.headers := rfl

/-- The headers of the request are the parameters. -/
theorem header?_setParameters_iff (p : Parameters) {key value : Bytes} :
    (setParameters p).header? key = some value ↔
      ∃ e ∈ p.headers, key = utf8 e.1 ∧ value = utf8 e.2 :=
  header?_setAll_iff p.headers_nodup rfl

theorem carriable_setParameters_iff (p : Parameters) :
    (setParameters p).Carriable ↔ Parameters.PlainValues p.headers := by
  constructor
  · intro carriable e member
    have found := (header?_setParameters_iff p).2 ⟨e, member, rfl, rfl⟩
    exact (isValue_utf8_iff e.2).1 (carriable.headers _ _ found).2
  · intro plain
    refine (carriable_request .setParameters).setAll fun e member => ?_
    exact ⟨Parameters.isName_of_mem_keys (Parameters.mem_keys_of_mem_headers member),
      (isValue_utf8_iff e.2).2 (plain e member)⟩

theorem readBack_setParameters_iff (p : Parameters) : (setParameters p).ReadBack ↔
    IsPlain p.accountTag ∧ IsPlain p.channelIdentifier ∧ IsPlain p.mediaType := by
  have empty : (setParameters p).body = [] := setAll_body p.headers _
  have undeclared : (setParameters p).header? Key.contentLength = none := by
    rw [Option.eq_none_iff_forall_ne_some]
    intro value found
    obtain ⟨e, member, same, -⟩ := (header?_setParameters_iff p).1 found
    exact Parameters.contentLength_not_mem_keys (Parameters.mem_keys_of_mem_headers member) same
  rw [readBack_iff_of_bodyless empty undeclared, carriable_setParameters_iff,
    Parameters.plainValues_headers_iff]

theorem readBack_createSession_iff (userAgent : String) :
    (createSession userAgent).ReadBack ↔ IsPlain userAgent := by
  have found : (createSession userAgent).header? Key.userAgent = some (utf8 userAgent) := by
    simp [createSession, setHeader, header?]
  have undeclared : (createSession userAgent).header? Key.contentLength = none := by
    have other : Key.contentLength ≠ Key.userAgent := by decide +kernel
    simp [createSession, setHeader, header?, other, Frame.request, Frame.new]
  have key : IsName Key.userAgent := by decide +kernel
  rw [readBack_iff_of_bodyless rfl undeclared, ← isValue_utf8_iff]
  exact ⟨fun carriable => (carriable.headers _ _ found).2,
    fun valid => (carriable_request .createSession).setHeader key valid⟩

theorem readBack_request (m : Method) : (Frame.request m).ReadBack :=
  (readBack_iff_of_bodyless rfl rfl).2 (carriable_request m)

theorem readBack_sendAudio_iff (chunk : Bytes) (last : Bool) :
    (sendAudio chunk last).ReadBack ↔ chunk.length < UInt64.size := by
  have type : IsName Key.contentType ∧ IsValue ContentType.octetStream := by decide +kernel
  have mark : IsName Key.lastPacket ∧ IsValue (utf8 (if last then "true" else "false")) := by
    cases last <;> decide +kernel
  have carriable := (carriable_request .sendAudio).setHeader type.1 type.2
  exact readBack_setBody_iff (carriable.setHeader mark.1 mark.2) chunk

/-- A recognition is asked for with the text of its model. -/
theorem startRecognition_of_text {m : LanguageModel} {text : String}
    (given : m.text? = some text) : ∃ f, startRecognition (some m) = .ok f ∧
      f.body = utf8 text ∧ (f.ReadBack ↔ (utf8 text).length < UInt64.size) := by
  have accept : IsName Key.accept ∧ IsValue ContentType.json := by decide +kernel
  have accepting := (carriable_request .startRecognition).setHeader accept.1 accept.2
  have type : IsName Key.contentType := by decide +kernel
  unfold startRecognition LanguageModel.apply
  cases uri : m.uri? with
  | some address =>
    obtain rfl : address = text := by simpa [LanguageModel.text?, uri] using given
    have list : IsValue ContentType.uriList := by decide +kernel
    simp only [uri]
    exact ⟨_, rfl, rfl, readBack_setBody_iff (accepting.setHeader type list) _⟩
  | none =>
    obtain grammar : m.grammar? = some text := by simpa [LanguageModel.text?, uri] using given
    have srgs : IsValue ContentType.srgs := by decide +kernel
    have id : IsName Key.contentId ∧ IsValue (utf8 "gram") := by decide +kernel
    have carriable := (accepting.setHeader type srgs).setHeader id.1 id.2
    simp only [uri, grammar]
    exact ⟨_, rfl, rfl, readBack_setBody_iff carriable _⟩

theorem startRecognition_of_no_text {model : Option LanguageModel}
    (none : model.bind LanguageModel.text? = none) :
    startRecognition model = .error .invalidLanguageModel := by
  cases model with
  | none => rfl
  | some m =>
    obtain ⟨uri, grammar⟩ : m.uri? = Option.none ∧ m.grammar? = Option.none := by
      simpa [LanguageModel.text?] using none
    simp [startRecognition, LanguageModel.apply, uri, grammar]

/-- Audio and models are read back whatever is in them, as long as the length of the body is a number
of 64 bits, and the requests without content always are.  A recognition can be asked for exactly if
there is an address or a grammar, and the body is the one or else the other.  A session is asked for
in a frame that is read back exactly if the user agent is plain, and parameters are sent in one
exactly if the three texts among them are. -/
theorem readBack_iff :
    (∀ chunk last, (sendAudio chunk last).ReadBack ↔ chunk.length < UInt64.size) ∧
    (∀ model : Option LanguageModel, match model.bind LanguageModel.text? with
      | none => startRecognition model = .error .invalidLanguageModel
      | some text => ∃ f, startRecognition model = .ok f ∧ f.body = utf8 text ∧
          (f.ReadBack ↔ (utf8 text).length < UInt64.size)) ∧
    cancelRecognition.ReadBack ∧ startInputTimers.ReadBack ∧ releaseSession.ReadBack ∧
    (∀ userAgent, (createSession userAgent).ReadBack ↔ IsPlain userAgent) ∧
    (∀ p : Parameters, (setParameters p).ReadBack ↔
      IsPlain p.accountTag ∧ IsPlain p.channelIdentifier ∧ IsPlain p.mediaType) := by
  refine ⟨readBack_sendAudio_iff, fun model => ?_, readBack_request _, readBack_request _,
    readBack_request _, readBack_createSession_iff, readBack_setParameters_iff⟩
  split
  next none => exact startRecognition_of_no_text none
  next text given =>
    obtain ⟨m, rfl, given⟩ := Option.bind_eq_some_iff.1 given
    exact startRecognition_of_text given

/-- A line break in a user agent brings in a header of its own; one that a space goes before loses
it. -/
example :
    let injected := createSession "a\r\nLastPacket:true"
    let lost := createSession " a"
    (Frame.parse injected.toBytes).map (·.header? Key.lastPacket) = .ok (some (utf8 "true")) ∧
      (Frame.parse lost.toBytes).map (·.header? Key.userAgent) = .ok (some (utf8 "a")) := by
  decide +kernel

end Request

end SpeechClient
