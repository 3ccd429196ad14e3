import SpeechClient.CommandLine.Arguments
import SpeechClient.CommandLine.Usage
import SpeechClient.Session.Socket
import SpeechClient.Settings.Load
import SpeechClient.Text.Lossy

/-!
# The command

A run of the command up to and including the attempt to connect: settings, language model, audio
and connection are tried in this order, and the first failure is reported with what was being done.
-/

namespace SpeechClient.CommandLine

structure Report where
  exitCode : Nat
  output : String := ""
  errorOutput : String := ""
  deriving DecidableEq, Repr

structure Failure where
  activity : String
  cause : Option String := none
  deriving DecidableEq, Repr

/-- The lines of a cause, each set in by four places. -/
def indented (cause : String) : String :=
  String.ofList ("    ".toList ++ cause.toList.flatMap fun c =>
    if c = '\n' then "\n    ".toList else [c])

def Failure.text (f : Failure) : String :=
  "Error: " ++ f.activity ++
    (f.cause.map fun cause => "\n\nCaused by:\n" ++ indented cause).getD "" ++ "\n"

def during {α ε : Type} (activity : String) (message : ε → String) :
    Except ε α → Except Failure α
  | .ok a => .ok a
  | .error e => .error { activity, cause := some (message e) }

/-- The settings: of the arguments if they name a server, else of the environment; a user among the
arguments goes before one in the environment. -/
def settingsOf (a : Arguments) (file : VariableFile) (env : Environment) :
    Except Failure Settings := do
  -- Once loaded, the file stays so for the password.
  let (base, env) ← match a.url with
    | some url => pure (({ url } : Settings), env)
    | none => do
      let base ← during "No --url given and ASR_URL is unusable" ConfigError.message
        (Settings.ofEnvironment file env)
      pure (base, file.load env)
  let credentials := match a.user with
    | some user => some
        { user, password := (a.password <|> env.text? "ASR_PASSWORD").getD "" }
    | none => base.credentials
  return { base with
    credentials
    maxWait := .ofSeconds (a.maxWait.getD 30)
    protocol := if a.legacy then .legacy else .current
    parameters := if a.configFromEnv then some (.ofEnvironment file env) else none }

def readText (files : FileTree) (path : Bytes) : Except FileError String := do
  match ← files.look path with
  | .directory => throw .isDirectory
  | .file bytes =>
    match bytes.text? with
    | some text => return text
    | none => throw .notText

def defaultModel : String := "builtin:slm/general"

/-- The language model: a grammar goes before an address. -/
def languageModelOf (a : Arguments) (files : FileTree) : Except Failure LanguageModel :=
  match a.grammar with
  | some path =>
    (during ("Failed to read grammar " ++ Lossy.text path) FileError.message
      (readText files path)).map .ofGrammar
  | none =>
    let uri := a.model.getD defaultModel
    if (Text.trim uri).isEmpty then .error { activity := "Empty language model URI" }
    else .ok (.ofUri uri)

structure Prepared where
  audio : FileSource
  model : LanguageModel
  engine : Engine

def prepare (link : Link) (a : Arguments) (file : VariableFile) (env : Environment)
    (files : FileTree) : Except Failure Prepared := do
  let settings ← settingsOf a file env
  let model ← languageModelOf a files
  let audio ← during ("Failed to open " ++ Lossy.text a.audio) RecognitionError.message
    (FileSource.openFile files a.audio)
  let engine ← during "Failed to connect to ASR server" RecognitionError.message
    (Engine.create link settings 1).1
  return { audio, model, engine }

def Stop.report (name : String) : Stop → Report
  | .help => { exitCode := 0, output := helpText name }
  | .version => { exitCode := 0, output := versionText }
  | .misuse => { exitCode := 2, errorOutput := misuseText name }

def Failure.report (f : Failure) : Report :=
  { exitCode := 1, errorOutput := f.text }

/-- A run of the command under a name, where no server can be reached. -/
def run (name : String) (args : List Bytes) (file : VariableFile) (env : Environment)
    (files : FileTree) : Report :=
  match Arguments.read args with
  | .error stop => stop.report name
  | .ok a =>
    match prepare .unreachable a file env files with
    | .error failure => failure.report
    | .ok _ => { exitCode := 0 }

end SpeechClient.CommandLine
