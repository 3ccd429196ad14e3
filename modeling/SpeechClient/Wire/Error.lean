import SpeechClient.Text.Bytes
import SpeechClient.Text.Quoted

/-!
# What can be wrong with a frame

The causes for which octets are not a frame, or a frame lacks what its reader asks for, and the
sentence that reports each.
-/

namespace SpeechClient.Wire

/-- What the reader of a frame was looking for when it met another token. -/
inductive Expectation where
  | protocolVersion
  | command
  | statusLineBreak
  | headerLine
  | headerKey
  | headerColon
  | headerLineBreak
  /-- What the reader of another form looks for, in its own words. -/
  | other (words : String)
  deriving DecidableEq, Repr

def Expectation.words : Expectation → String
  | .protocolVersion => "protocol version"
  | .command => "command"
  | .statusLineBreak => "line break after status line"
  | .headerLine => "header line, found a second status line"
  | .headerKey => "header key"
  | .headerColon => "':' after header key"
  | .headerLineBreak => "line break after header value"
  | .other words => words

inductive FrameError where
  | invalidCharacter (byte : UInt8) (offset : Nat)
  /-- A token out of place; the offset is the one after it. -/
  | unexpectedToken (expected : Expectation) (offset : Nat)
  /-- The first token is not the keyword. -/
  | missingStatusLine
  | invalidContentLength (value : Bytes)
  | truncatedBody (expected actual : Nat)
  | missingHeader (key : Bytes)
  | invalidBody (detail : String)
  deriving DecidableEq, Repr

def FrameError.message : FrameError → String
  | .invalidCharacter byte offset =>
    "Invalid character 0x" ++ Bytes.hex [byte] ++ " at offset " ++ toString offset
  | .unexpectedToken expected offset =>
    "Unexpected token at offset " ++ toString offset ++ ": expected " ++ expected.words
  | .missingStatusLine => "Frame does not start with an ASR status line"
  | .invalidContentLength value => "Invalid Content-Length: " ++ Text.quoted value.text
  | .truncatedBody expected actual =>
    "Truncated body: expected " ++ toString expected ++ " bytes, got " ++ toString actual
  | .missingHeader key => "Header not declared: " ++ key.text
  | .invalidBody detail => "Invalid body: " ++ detail

end SpeechClient.Wire
