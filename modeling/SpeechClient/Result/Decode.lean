import SpeechClient.Json.Write
import SpeechClient.Result.Basic

/-!
# Results in JSON

Reading a result out of the body of a message, and writing a result as JSON.
-/

namespace SpeechClient

/-- The integer of a number member: a number with a fraction loses it, a missing one is zero, and
the lowest 32 bits of what is left count. -/
def Json.intOf (name : String) (j : Json) : Int32 :=
  match j.get? name with
  | none => 0
  | some v => Int32.ofInt ((v.asInt? <|> v.asDouble?.map Double.truncate).getD 0)

def Json.doubleOf? (name : String) (j : Json) : Option Double :=
  (j.get? name).bind Json.asDouble?

/-- An interpretation: a string is its own text, any other value its compact JSON text. -/
def Interpretation.ofJson (j : Json) : Interpretation :=
  { text := j.asString?.getD j.text, confidence := j.intOf "score" }

/-- A word; a missing time is zero. -/
def Word.ofJson (j : Json) : Word :=
  { text := j.textOf "text"
    confidence := j.intOf "score"
    startTime := (j.doubleOf? "start_time").getD .zero
    endTime := (j.doubleOf? "end_time").getD .zero }

def Alternative.ofJson (j : Json) : Alternative :=
  let a : Alternative :=
    { text := j.textOf "text"
      confidence := j.intOf "score"
      interpretations := (j.elementsOf "interpretations").map Interpretation.ofJson }
  ((j.elementsOf "words").map Word.ofJson).foldl Alternative.pushWord a

/-- A result; `status` counts where the body names none. -/
def SegmentResult.ofJson (j : Json) (status : String) : SegmentResult :=
  let status := ((j.get? "result_status").bind Json.asString?).getD status
  let r := ((j.elementsOf "alternatives").map Alternative.ofJson).foldl
    SegmentResult.pushAlternative (.ofStatus status)
  { r with
    startTime := (j.doubleOf? "start_time").getD r.startTime
    endTime := (j.doubleOf? "end_time").getD r.endTime }

def PartialResult.ofJson (j : Json) : PartialResult :=
  { text := ((j.elementsOf "alternatives").head?.map (Json.textOf "text")).getD ""
    segment := Int32.ofInt (((j.get? "segment_index").bind Json.asInt?).getD 0) }

/-! ## Writing -/

def Json.objectText (members : List (String × String)) : String :=
  "\x7b" ++ Json.commaSeparated (members.map fun (name, text) =>
    Json.stringText name ++ ":" ++ text) ++ "\x7d"

def Json.arrayText (elements : List String) : String :=
  "[" ++ Json.commaSeparated elements ++ "]"

def Interpretation.jsonText (i : Interpretation) : String :=
  Json.objectText [("text", Json.stringText i.text),
    ("confidence", Numeral.ofInt i.confidence.toInt)]

def Word.jsonText (w : Word) : String :=
  Json.objectText [("text", Json.stringText w.text),
    ("confidence", Numeral.ofInt w.confidence.toInt),
    ("start_time", Json.doubleText w.startTime),
    ("end_time", Json.doubleText w.endTime)]

def Alternative.jsonText (a : Alternative) : String :=
  Json.objectText [("text", Json.stringText a.text),
    ("confidence", Numeral.ofInt a.confidence.toInt),
    ("interpretations", Json.arrayText (a.interpretations.map Interpretation.jsonText)),
    ("words", Json.arrayText (a.words.map Word.jsonText))]

def SegmentResult.jsonText (r : SegmentResult) : String :=
  Json.objectText [("code", Json.stringText r.code.name),
    ("alternatives", Json.arrayText (r.alternatives.map Alternative.jsonText)),
    ("start_time", Json.doubleText r.startTime),
    ("end_time", Json.doubleText r.endTime),
    ("last_segment", if r.lastSegment then "true" else "false")]

end SpeechClient
