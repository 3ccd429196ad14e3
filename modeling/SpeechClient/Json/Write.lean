import SpeechClient.Json.Value
import SpeechClient.Number.Shortest

/-!
# Writing JSON text

The compact form: no blanks, members in ascending order, numbers with the fewest digits that read
back.
-/

namespace SpeechClient.Json

/-- Numbers have up to sixteen places before the point, and up to four zeros after it, before an
exponent is written. -/
def numberLayout : Shortest.Layout := ⟨16, 5⟩

/-- The text of a number.  What is no finite number is written as null. -/
def doubleText (x : Double) : String :=
  if x.isFinite then Shortest.text numberLayout x else "null"

def numberText : JsonNumber → String
  | .natural n => toString n
  | .negative i => Numeral.ofInt i
  | .double x => doubleText x

def escapedChar (c : Char) : List Char :=
  match c with
  | '"' => ['\\', '"']
  | '\\' => ['\\', '\\']
  | '\x08' => ['\\', 'b']
  | '\x0c' => ['\\', 'f']
  | '\n' => ['\\', 'n']
  | '\r' => ['\\', 'r']
  | '\t' => ['\\', 't']
  | c =>
    if c.toNat < 0x20 then
      ['\\', 'u', '0', '0', Bytes.hexDigit (c.toNat / 16), Bytes.hexDigit (c.toNat % 16)]
    else [c]

def stringText (s : String) : String :=
  "\"" ++ String.ofList (s.toList.flatMap escapedChar) ++ "\""

def commaSeparated (texts : List String) : String :=
  String.intercalate "," texts

mutual

def text : Json → String
  | .null => "null"
  | .bool b => if b then "true" else "false"
  | .number n => numberText n
  | .string s => stringText s
  | .array elements => "[" ++ commaSeparated (elementTexts elements) ++ "]"
  | .object members => "\x7b" ++ commaSeparated (memberTexts members) ++ "\x7d"

def elementTexts : List Json → List String
  | [] => []
  | v :: rest => text v :: elementTexts rest

def memberTexts : List (String × Json) → List String
  | [] => []
  | (name, v) :: rest => (stringText name ++ ":" ++ text v) :: memberTexts rest

end

end SpeechClient.Json
