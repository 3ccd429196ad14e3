import SpeechClient.Text.Numeral
import SpeechClient.Wire.Headers
import SpeechClient.Wire.Vocabulary
import SpeechClient.Wire.Error

/-!
# Frames

One protocol message: a status line, headers and a body.  A frame is written as its status line,
its headers in key order, and the body after a blank line when there is one.
-/

namespace SpeechClient.Wire

structure Frame where
  version : Bytes
  command : Bytes
  headers : Headers := .empty
  body : Bytes := []
  deriving DecidableEq

namespace Frame

def new (version command : Bytes) : Frame :=
  { version, command }

/-- A frame that asks for `method` in the protocol's own version. -/
def request (method : Method) : Frame :=
  new protocolVersion method.octets

def method? (f : Frame) : Option Method :=
  Method.ofOctets? f.command

def header? (f : Frame) (key : Bytes) : Option Bytes :=
  f.headers.get? key

/-- The value of a header that the reader cannot do without. -/
def require (f : Frame) (key : Bytes) : Except FrameError Bytes :=
  match f.header? key with
  | some value => .ok value
  | none => .error (.missingHeader key)

def setHeader (f : Frame) (key value : Bytes) : Frame :=
  { f with headers := f.headers.insert key value }

/-- The frame with another body; `Content-Length` follows the body. -/
def setBody (f : Frame) (body : Bytes) : Frame :=
  { f.setHeader Key.contentLength (Numeral.ofNat body.length) with body }

def headerLine (entry : Bytes × Bytes) : Bytes :=
  entry.1 ++ [Bytes.colon] ++ entry.2 ++ Bytes.lineBreak

def statusLine (f : Frame) : Bytes :=
  keyword ++ [Bytes.space] ++ f.version ++ [Bytes.space] ++ f.command ++ Bytes.lineBreak

def toBytes (f : Frame) : Bytes :=
  f.statusLine ++ f.headers.entries.flatMap headerLine ++
    (if f.body.isEmpty then [] else Bytes.lineBreak ++ f.body)

/-- The body as a reader of logs sees it: text as it is, audio and other octets by their count. -/
def bodySummary (f : Frame) : String :=
  match f.body.text? with
  | some text =>
    if f.command = Method.sendAudio.octets then "<" ++ toString f.body.length ++ " bytes>" else text
  | none => "<" ++ toString f.body.length ++ " bytes>"

def display (f : Frame) : String :=
  keyword.text ++ " " ++ f.version.text ++ " " ++ f.command.text ++
    String.join (f.headers.entries.map fun (key, value) => " | " ++ key.text ++ ":" ++ value.text) ++
    (if f.body.isEmpty then "" else " | " ++ f.bodySummary)

end Frame

end SpeechClient.Wire
