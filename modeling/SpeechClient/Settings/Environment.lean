import SpeechClient.Text.Bytes

/-!
# Environment variables

The variables a process starts with, and a file that may add to them.  A value that is not UTF-8
counts as not set.

- `Environment`: the variables.
- `VariableFile`: a file of variables, by what it does to an environment.
-/

namespace SpeechClient

structure Environment where
  entries : List (String × Bytes)
  deriving DecidableEq, Repr, Inhabited

def Environment.text? (env : Environment) (name : String) : Option String :=
  (env.entries.lookup name).bind Bytes.text?

/-- A file of variables, by what becomes of an environment when it is loaded: what is set stays. -/
structure VariableFile where
  load : Environment → Environment
  text?_load : ∀ env name s, env.text? name = some s → (load env).text? name = some s

def VariableFile.missing : VariableFile where
  load env := env
  text?_load _ _ _ set := set

def Environment.names : List String := [
  "ASR_URL", "ASR_USER", "ASR_PASSWORD",
  "CONFIDENCE_THRESHOLD", "MAX_SENTENCES",
  "NO_INPUT_TIMEOUT_MILLISECONDS", "RECOG_TIMEOUT_SECONDS",
  "NO_INPUT_TIMEOUT_ENABLED", "RECOG_TIMEOUT_ENABLED",
  "INFER_AGE_ENABLED", "INFER_EMOTION_ENABLED", "INFER_GENDER_ENABLED",
  "HEAD_MARGIN_MILLISECONDS", "TAIL_MARGIN_MILLISECONDS", "WAIT_END_MILLISECONDS",
  "CONTINUOUS_MODE", "MAX_SEGMENT_DURATION", "START_INPUT_TIMERS",
  "ENDPOINTER_AUTO_LEVEL_LEN", "ENDPOINTER_LEVEL_MODE", "ENDPOINTER_LEVEL_THRESHOLD",
  "VERIFY_BUFFER_UTTERANCE", "ACCOUNT_TAG", "CHANNEL_IDENTIFIER", "MEDIA_TYPE"]

end SpeechClient
