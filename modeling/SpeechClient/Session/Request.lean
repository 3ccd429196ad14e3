import SpeechClient.LanguageModel
import SpeechClient.Settings.Parameters

/-!
# Requests

The frames a client sends.
-/

namespace SpeechClient.Request

open Wire

def createSession (userAgent : String) : Frame :=
  (Frame.request .createSession).setHeader Key.userAgent (utf8 userAgent)

def setParameters (p : Parameters) : Frame :=
  p.headers.foldl (fun f (key, value) => f.setHeader (utf8 key) (utf8 value))
    (Frame.request .setParameters)

def startRecognition (model : Option LanguageModel) : Except RecognitionError Frame :=
  match model with
  | some m => m.apply ((Frame.request .startRecognition).setHeader Key.accept ContentType.json)
  | none => .error .invalidLanguageModel

def sendAudio (chunk : Bytes) (last : Bool) : Frame :=
  (((Frame.request .sendAudio).setHeader Key.contentType ContentType.octetStream).setHeader
    Key.lastPacket (utf8 (if last then "true" else "false"))).setBody chunk

def cancelRecognition : Frame := Frame.request .cancelRecognition

def startInputTimers : Frame := Frame.request .startInputTimers

def releaseSession : Frame := Frame.request .releaseSession

end SpeechClient.Request
