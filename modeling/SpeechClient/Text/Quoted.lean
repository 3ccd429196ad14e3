import SpeechClient.Text.Bytes
import SpeechClient.Text.Invisible

/-!
# Quoted text

A text between double quotes, in which every character can be seen: quotes, backslashes and
control characters are escaped, and a character without a mark of its own is written by number.
-/

namespace SpeechClient.Text

def hexDigits (n : Nat) : List Char :=
  if n < 16 then [Bytes.hexDigit n] else hexDigits (n / 16) ++ [Bytes.hexDigit (n % 16)]

/-- A character by its number: a backslash, a small u and the digits in braces. -/
def numbered (c : Char) : List Char :=
  ['\\', 'u', '\x7b'] ++ hexDigits c.toNat ++ ['\x7d']

def escaped (c : Char) : List Char :=
  match c with
  | '\x00' => ['\\', '0']
  | '\t' => ['\\', 't']
  | '\r' => ['\\', 'r']
  | '\n' => ['\\', 'n']
  | '\\' => ['\\', '\\']
  | '"' => ['\\', '"']
  | c =>
    if c.toNat < 0x20 || (0x7f ≤ c.toNat && Invisible.contains c) then numbered c else [c]

def quoted (s : String) : String :=
  String.ofList (['"'] ++ s.toList.flatMap escaped ++ ['"'])

end SpeechClient.Text
