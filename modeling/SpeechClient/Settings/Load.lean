import SpeechClient.Address.Url
import SpeechClient.Settings.Basic

/-!
# Settings from environment variables
-/

namespace SpeechClient.Settings

def credentialsOf (env : Environment) : Option Credentials := do
  let user ← env.text? "ASR_USER"
  let password ← env.text? "ASR_PASSWORD"
  if user.isEmpty then none else some { user, password }

/-- The settings of an environment once the file of variables is loaded.  The address is needed, and
must be usable. -/
def ofEnvironment (file : VariableFile) (env : Environment) : Except ConfigError Settings := do
  let env := file.load env
  match env.text? "ASR_URL" with
  | none => throw (.missingVariable "ASR_URL")
  | some url =>
    let _ ← Url.ofServer url
    return { url, credentials := credentialsOf env }

end SpeechClient.Settings
