import SpeechClient.Settings.Environment
import SpeechClient.Text.Blank
import SpeechClient.Text.Numeral

/-!
# Recognition parameters

What a client may ask of the recognizer: the parameters, the headers that carry them, and their
reading from environment variables.  Zero, false and the empty text mean the server's own choice
and are not sent.
-/

namespace SpeechClient

structure Parameters where
  confidenceThreshold : UInt32 := 0
  maxSentences : UInt32 := 1
  noInputTimeoutMs : UInt32 := 0
  recognitionTimeoutSeconds : UInt32 := 0
  noInputTimeoutEnabled : Bool := false
  recognitionTimeoutEnabled : Bool := false
  inferAge : Bool := false
  inferEmotion : Bool := false
  inferGender : Bool := false
  headMarginMs : UInt32 := 0
  tailMarginMs : UInt32 := 0
  waitEndMs : UInt32 := 0
  continuousMode : Bool := false
  maxSegmentDuration : UInt32 := 0
  deferInputTimers : Bool := false
  autoLevelLength : UInt32 := 0
  /-- One is the automatic level and two a fixed threshold. -/
  levelMode : UInt32 := 0
  levelThreshold : UInt32 := 0
  verifyBufferUtterance : Bool := false
  accountTag : String := ""
  channelIdentifier : String := ""
  mediaType : String := ""
  deriving DecidableEq, Repr

namespace Parameters

/-! ## Headers -/

def numberHeader (key : String) (value : UInt32) : List (String × String) :=
  if value = 0 then [] else [(key, toString value.toNat)]

def switchHeader (key : String) (word : String) (on : Bool) : List (String × String) :=
  if on then [(key, word)] else []

def textHeader (key : String) (value : String) : List (String × String) :=
  if value.isEmpty then [] else [(key, value)]

/-- The level headers: which one is sent besides the mode depends on the mode. -/
def levelHeaders (p : Parameters) : List (String × String) :=
  numberHeader "endpointer.levelMode" p.levelMode ++
    (if p.levelMode = 1 then numberHeader "endpointer.autoLevelLen" p.autoLevelLength
    else if p.levelMode = 2 then numberHeader "endpointer.levelThreshold" p.levelThreshold
    else [])

def timeoutHeaders (name : String) (on : Bool) (value : UInt32) : List (String × String) :=
  if on then (name ++ ".enabled", "1") :: numberHeader (name ++ ".value") value else []

def headers (p : Parameters) : List (String × String) :=
  numberHeader "decoder.confidenceThreshold" p.confidenceThreshold ++
  numberHeader "decoder.maxSentences" p.maxSentences ++
  numberHeader "endpointer.headMargin" p.headMarginMs ++
  numberHeader "endpointer.tailMargin" p.tailMarginMs ++
  numberHeader "endpointer.waitEnd" p.waitEndMs ++
  numberHeader "endpointer.maxSegmentDuration" p.maxSegmentDuration ++
  p.levelHeaders ++
  timeoutHeaders "noInputTimeout" p.noInputTimeoutEnabled p.noInputTimeoutMs ++
  timeoutHeaders "recognitionTimeout" p.recognitionTimeoutEnabled p.recognitionTimeoutSeconds ++
  switchHeader "decoder.startInputTimers" "1" p.deferInputTimers ++
  switchHeader "decoder.continuousMode" "true" p.continuousMode ++
  switchHeader "Infer-age-enabled" "true" p.inferAge ++
  switchHeader "Infer-emotion-enabled" "true" p.inferEmotion ++
  switchHeader "Infer-gender-enabled" "true" p.inferGender ++
  switchHeader "Ver-Buffer-Utterance" "true" p.verifyBufferUtterance ++
  textHeader "licenseManager.accountTag" p.accountTag ++
  textHeader "Channel-Identifier" p.channelIdentifier ++
  textHeader "Media-Type" p.mediaType

/-! ## Environment variables -/

/-- The number a text denotes; a text that denotes none gives zero. -/
def readNumber (s : String) : UInt32 :=
  ((Numeral.below? UInt32.size (utf8 (Text.trim s))).getD 0).toUInt32

/-- The truth of a text: only the word `true`, in any case, is true. -/
def readSwitch (s : String) : Bool :=
  Bytes.eqIgnoringCase (utf8 s) (utf8 "true")

/-- A field after reading its variable.  An unset variable leaves the field, or with `reset` gives
it `absent`. -/
def field {α : Type} (env : Environment) (reset : Bool) (read : String → α) (absent : α)
    (name : String) (current : α) : α :=
  match env.text? name with
  | some s => read s
  | none => if reset then absent else current

def update (env : Environment) (reset : Bool) (p : Parameters) : Parameters :=
  let number := field env reset readNumber 0
  let switch := field env reset readSwitch false
  let text := field env reset id ""
  { confidenceThreshold := number "CONFIDENCE_THRESHOLD" p.confidenceThreshold
    maxSentences := number "MAX_SENTENCES" p.maxSentences
    noInputTimeoutMs := number "NO_INPUT_TIMEOUT_MILLISECONDS" p.noInputTimeoutMs
    recognitionTimeoutSeconds := number "RECOG_TIMEOUT_SECONDS" p.recognitionTimeoutSeconds
    noInputTimeoutEnabled := switch "NO_INPUT_TIMEOUT_ENABLED" p.noInputTimeoutEnabled
    recognitionTimeoutEnabled := switch "RECOG_TIMEOUT_ENABLED" p.recognitionTimeoutEnabled
    inferAge := switch "INFER_AGE_ENABLED" p.inferAge
    inferEmotion := switch "INFER_EMOTION_ENABLED" p.inferEmotion
    inferGender := switch "INFER_GENDER_ENABLED" p.inferGender
    headMarginMs := number "HEAD_MARGIN_MILLISECONDS" p.headMarginMs
    tailMarginMs := number "TAIL_MARGIN_MILLISECONDS" p.tailMarginMs
    waitEndMs := number "WAIT_END_MILLISECONDS" p.waitEndMs
    continuousMode := switch "CONTINUOUS_MODE" p.continuousMode
    maxSegmentDuration := number "MAX_SEGMENT_DURATION" p.maxSegmentDuration
    deferInputTimers := switch "START_INPUT_TIMERS" p.deferInputTimers
    autoLevelLength := number "ENDPOINTER_AUTO_LEVEL_LEN" p.autoLevelLength
    levelMode := number "ENDPOINTER_LEVEL_MODE" p.levelMode
    levelThreshold := number "ENDPOINTER_LEVEL_THRESHOLD" p.levelThreshold
    verifyBufferUtterance := switch "VERIFY_BUFFER_UTTERANCE" p.verifyBufferUtterance
    accountTag := text "ACCOUNT_TAG" p.accountTag
    channelIdentifier := text "CHANNEL_IDENTIFIER" p.channelIdentifier
    mediaType := text "MEDIA_TYPE" p.mediaType }

/-- The defaults, with what the environment sets once the file of variables is loaded. -/
def ofEnvironment (file : VariableFile) (env : Environment) : Parameters :=
  update (file.load env) false {}

end Parameters

end SpeechClient
