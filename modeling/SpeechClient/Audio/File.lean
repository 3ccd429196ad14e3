import SpeechClient.Audio.Files
import SpeechClient.Audio.Format
import SpeechClient.Audio.Wav
import SpeechClient.Error
import SpeechClient.Text.Lossy
import SpeechClient.Text.Quoted

/-!
# Audio in files

A file is delivered in blocks of ten thousand octets.  Of a WAVE file only the samples are
delivered; any other file is delivered as it is.
-/

namespace SpeechClient

inductive FileContent where
  | rest (bytes : Bytes)
  /-- A directory was opened: every read fails. -/
  | directory
  deriving DecidableEq, Repr

structure FileSource where
  path : Bytes
  format : AudioFormat
  /-- Nothing once the source is closed. -/
  content : Option FileContent
  deriving DecidableEq, Repr

namespace FileSource

def blockSize : Nat := 10000

def isWav (path : Bytes) : Bool :=
  match Path.extension? path with
  | some e => Bytes.eqIgnoringCase e (utf8 "wav")
  | none => false

def pathText (path : Bytes) : String := Lossy.text path

/-- How many octets of samples are delivered: for each sample the whole octets among the bits that
count. -/
def deliveredLength (s : Wav.Samples) : Nat :=
  s.count * (s.spec.bitsPerSample / 8)

def openWav (path : Bytes) (content : FileContent) : Except RecognitionError FileSource :=
  let parsed := match content with
    | .rest bytes => Wav.parse bytes
    | .directory => .error (.unreadable FileError.isDirectory.message)
  match parsed with
  | .error e => .error (.audio ("Invalid WAV file " ++ pathText path ++ ": " ++ e.message))
  | .ok samples => .ok
      { path
        format :=
          { encoding := .wav
            sampleRate := samples.spec.sampleRate
            bitsPerSample := samples.spec.bitsPerSample }
        content := some (.rest (samples.rest.take (deliveredLength samples))) }

def openFile (files : FileTree) (path : Bytes) : Except RecognitionError FileSource :=
  match files.look path with
  | .error e => .error (.audio ("Failed to open " ++ pathText path ++ ": " ++ e.message))
  | .ok node =>
    let content := match node with
      | .file bytes => FileContent.rest bytes
      | .directory => .directory
    if isWav path then openWav path content
    else .ok { path, format := { encoding := .raw }, content := some content }

/-- The next block; an empty one is the end. -/
def read (s : FileSource) : Except RecognitionError (ReadStatus × Bytes) × FileSource :=
  match s.content with
  | none => (.ok (.endOfStream, []), s)
  | some .directory => (.error (.audio FileError.isDirectory.message), s)
  | some (.rest bytes) =>
    let block := bytes.take blockSize
    (.ok (if block.isEmpty then .endOfStream else .data, block),
      { s with content := some (.rest (bytes.drop blockSize)) })

def close (s : FileSource) : FileSource :=
  { s with content := none }

def summary (s : FileSource) : String :=
  "FileAudioSource \x7b path: " ++ Text.quoted (pathText s.path) ++ ", format: " ++
    s.format.summary ++ " \x7d"

end FileSource

end SpeechClient
