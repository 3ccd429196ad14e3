import SpeechClient.Error
import SpeechClient.Wire.Frame

/-!
# Language models

What speech is recognized against: a model that the server knows by its address, or a grammar that
the client sends.
-/

namespace SpeechClient

/-- A model by address, or a grammar. -/
structure LanguageModel where
  address : Option String := none
  grammarText : Option String := none
  deriving DecidableEq, Repr, Inhabited

namespace LanguageModel

def ofUri (uri : String) : LanguageModel := { address := some uri }
def ofGrammar (grammar : String) : LanguageModel := { grammarText := some grammar }

def uri? (m : LanguageModel) : Option String :=
  m.address.filter fun s => !s.isEmpty

def grammar? (m : LanguageModel) : Option String :=
  m.grammarText.filter fun s => !s.isEmpty

def usable (m : LanguageModel) : Bool :=
  m.uri?.isSome || m.grammar?.isSome

/-- The frame with the model in it.  An address goes before a grammar. -/
def apply (m : LanguageModel) (f : Wire.Frame) : Except RecognitionError Wire.Frame :=
  match m.uri?, m.grammar? with
  | some uri, _ =>
    .ok ((f.setHeader Wire.Key.contentType Wire.ContentType.uriList).setBody (utf8 uri))
  | none, some grammar =>
    .ok (((f.setHeader Wire.Key.contentType Wire.ContentType.srgs).setHeader
      Wire.Key.contentId (utf8 "gram")).setBody (utf8 grammar))
  | none, none => .error .invalidLanguageModel

end LanguageModel

end SpeechClient
