import SpeechClient.Address.Target
import SpeechClient.Session.Engine

/-!
# A web socket that finds no server

What becomes of a connection where no server can be reached: the request is made up first, from the
address and then from the credentials, the host is looked for, and then the network refuses.
Nothing is ever open, so nothing can be sent.
-/

namespace SpeechClient

/-- The octet may stand in the value of a header: anything but a control character, save the tab. -/
def inHeaderValue (b : UInt8) : Bool :=
  b == Bytes.tab || (Bytes.space ≤ b && b ≠ 0x7f)

def Endpoint.refusal (p : Endpoint) (network : String) : String :=
  match Target.check p.url with
  | .error e => "invalid request: HTTP format error: " ++ e.message
  | .ok () =>
    if !p.authorization.all fun a => (utf8 a).all inHeaderValue then
      "invalid credentials: failed to parse header value"
    else if !p.url.hasHost then "cannot resolve host: No host name in the URL"
    else network

def Endpoint.failure (p : Endpoint) (network : String) : String :=
  p.url.text ++ ": " ++ p.refusal network

namespace Link

def networkUnreachable : String := "Network is unreachable (os error 101)"

def unreachable : Link where
  refuseOpen p := some (.ofReason (p.failure networkUnreachable))
  refuseSend _ _ := some (.ofReason "connection is not open")

end Link

end SpeechClient
