/-!
# What the command says of itself

The texts for the help and the version.
-/

namespace SpeechClient.CommandLine

def about : String := "Blocking client for streaming speech recognition sessions"

def commandName : String := "asr-recognize"

def usageLine (name : String) : String := "Usage: " ++ name ++ " [OPTIONS] <AUDIO>"

def optionLines : List (String × String) := [
  ("    --url <URL>", "Server endpoint (ws:// or wss://); falls back to ASR_URL"),
  ("    --user <USER>", "User for Basic authentication; falls back to ASR_USER"),
  ("    --password <PASSWORD>", "Password for Basic authentication; falls back to ASR_PASSWORD"),
  ("    --model <MODEL>", "Language model URI [default: builtin:slm/general]"),
  ("    --grammar <GRAMMAR>", "SRGS grammar file, used instead of --model"),
  ("    --max-wait <MAX_WAIT>", "Seconds to wait for the result [default: 30]"),
  ("    --config-from-env", "Send recognition parameters read from the environment"),
  ("    --legacy", "Server does not send final_result/last_segment in result bodies"),
  ("    --json", "Print results as JSON"),
  ("-h, --help", "Print help"),
  ("-V, --version", "Print version")]

/-- Two columns, the second two places right of the longest entry of the first. -/
def columns (rows : List (String × String)) : String :=
  let width := rows.foldl (fun w (left, _) => max w left.length) 0
  String.join (rows.map fun (left, right) =>
    "  " ++ left ++ String.ofList (List.replicate (width - left.length + 2) ' ') ++ right ++ "\n")

def helpText (name : String) : String :=
  about ++ "\n\n" ++ usageLine name ++ "\n\nArguments:\n" ++
    columns [("<AUDIO>", "WAV or raw 16-bit PCM file to recognize")] ++
    "\nOptions:\n" ++ columns optionLines

def versionText : String := "asr_client 0.1.0\n"

def misuseText (name : String) : String :=
  "error: the arguments cannot be understood\n\n" ++ usageLine name ++
    "\n\nFor more information, try '--help'.\n"

end SpeechClient.CommandLine
