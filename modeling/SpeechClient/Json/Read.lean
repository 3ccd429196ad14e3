import SpeechClient.Json.Number

/-!
# Reading JSON text

A text is read as one value with blanks around it.  Strings must be well-formed UTF-8 and may not
hold half of a surrogate pair; values nest to a depth of 127.
-/

namespace SpeechClient.Json

def isBlank (b : UInt8) : Bool :=
  b == 0x20 || b == 0x09 || b == 0x0a || b == 0x0d

def skipBlanks (b : Bytes) : Bytes :=
  b.dropWhile isBlank

def after? (beginning b : Bytes) : Option Bytes :=
  if beginning.isPrefixOf b then some (b.drop beginning.length) else none

/-! ## Strings -/

/-- The octets up to the closing quote, escapes left as they are, and the octets after it. -/
def splitString (b : Bytes) (taken : Bytes) : Option (Bytes × Bytes) :=
  match b with
  | [] => none
  | 0x22 :: rest => some (taken.reverse, rest)
  | 0x5c :: x :: rest => splitString rest (x :: 0x5c :: taken)
  | x :: rest => splitString rest (x :: taken)

def hexValue? (b : UInt8) : Option Nat :=
  if Bytes.isDigit b then some (b.toNat - 0x30)
  else if 0x41 ≤ b && b ≤ 0x46 then some (b.toNat - 0x37)
  else if 0x61 ≤ b && b ≤ 0x66 then some (b.toNat - 0x57)
  else none

def readUnit : Bytes → Option (Nat × Bytes)
  | a :: b :: c :: d :: rest => do
    let n := (← hexValue? a) * 4096 + (← hexValue? b) * 256 + (← hexValue? c) * 16 + (← hexValue? d)
    return (n, rest)
  | _ => none

/-- The character whose number is escaped here, and the octets after it.  A high surrogate needs
the escape of a low one after it. -/
def readEscapedNumber (b : Bytes) : Option (Char × Bytes) := do
  let (n, rest) ← readUnit b
  if 0xdc00 ≤ n ∧ n ≤ 0xdfff then none
  else if 0xd800 ≤ n ∧ n ≤ 0xdbff then
    let rest ← after? [0x5c, 0x75] rest
    let (low, rest) ← readUnit rest
    if 0xdc00 ≤ low ∧ low ≤ 0xdfff then
      return (Char.ofNat (0x10000 + (n - 0xd800) * 0x400 + (low - 0xdc00)), rest)
    else none
  else return (Char.ofNat n, rest)

def escapedByte? (b : UInt8) : Option UInt8 :=
  match b with
  | 0x22 => some 0x22
  | 0x5c => some 0x5c
  | 0x2f => some 0x2f
  | 0x62 => some 0x08
  | 0x66 => some 0x0c
  | 0x6e => some 0x0a
  | 0x72 => some 0x0d
  | 0x74 => some 0x09
  | _ => none

/-- The octets with their escapes resolved; each step takes at least one octet, so the length of
the input is fuel enough. -/
def unescape (b : Bytes) (out : Bytes) : Nat → Option Bytes
  | 0 => if b.isEmpty then some out.reverse else none
  | fuel + 1 =>
    match b with
    | [] => some out.reverse
    | 0x5c :: 0x75 :: rest =>
      match readEscapedNumber rest with
      | some (c, rest) => unescape rest ((utf8 (String.singleton c)).reverse ++ out) fuel
      | none => none
    | 0x5c :: x :: rest =>
      match escapedByte? x with
      | some y => unescape rest (y :: out) fuel
      | none => none
    | x :: rest => if x < 0x20 then none else unescape rest (x :: out) fuel

def readString (b : Bytes) : Option (String × Bytes) := do
  let (raw, rest) ← splitString b []
  let text ← (← unescape raw [] raw.length).text?
  return (text, rest)

/-! ## Values -/

mutual

/-- A value at the start, `depth` containers deep at most. -/
def readValue (fuel depth : Nat) (b : Bytes) : Option (Json × Bytes) :=
  match fuel, skipBlanks b with
  | 0, _ => none
  | _, [] => none
  | fuel + 1, x :: rest =>
    if x == 0x22 then (readString rest).map fun (s, rest) => (.string s, rest)
    else if x == 0x5b then
      if depth = 0 then none else readFirstElement fuel (depth - 1) rest
    else if x == 0x7b then
      if depth = 0 then none else readFirstMember fuel (depth - 1) rest
    else if x == 0x6e then (after? (utf8 "ull") rest).map fun rest => (.null, rest)
    else if x == 0x74 then (after? (utf8 "rue") rest).map fun rest => (.bool true, rest)
    else if x == 0x66 then (after? (utf8 "alse") rest).map fun rest => (.bool false, rest)
    else
      match readNumeral (x :: rest) with
      | some (numeral, rest) => numeral.toNumber?.map fun n => (.number n, rest)
      | none => none

def readFirstElement (fuel depth : Nat) (b : Bytes) : Option (Json × Bytes) :=
  match fuel, skipBlanks b with
  | 0, _ => none
  | fuel + 1, b =>
    if b.head? == some 0x5d then some (.array [], b.tail)
    else
      match readValue fuel depth b with
      | some (v, rest) => readElements fuel depth [v] rest
      | none => none

def readElements (fuel depth : Nat) (read : List Json) (b : Bytes) : Option (Json × Bytes) :=
  match fuel, skipBlanks b with
  | 0, _ => none
  | _, [] => none
  | fuel + 1, x :: rest =>
    if x == 0x5d then some (.array read.reverse, rest)
    else if x == 0x2c then
      match readValue fuel depth rest with
      | some (v, rest) => readElements fuel depth (v :: read) rest
      | none => none
    else none

def readFirstMember (fuel depth : Nat) (b : Bytes) : Option (Json × Bytes) :=
  match fuel, skipBlanks b with
  | 0, _ => none
  | fuel + 1, b =>
    if b.head? == some 0x7d then some (.object [], b.tail)
    else
      match readMember fuel depth b with
      | some (m, rest) => readMembers fuel depth [m] rest
      | none => none

def readMembers (fuel depth : Nat) (read : List (String × Json)) (b : Bytes) :
    Option (Json × Bytes) :=
  match fuel, skipBlanks b with
  | 0, _ => none
  | _, [] => none
  | fuel + 1, x :: rest =>
    if x == 0x7d then some (ofMembers read.reverse, rest)
    else if x == 0x2c then
      match readMember fuel depth rest with
      | some (m, rest) => readMembers fuel depth (m :: read) rest
      | none => none
    else none

def readMember (fuel depth : Nat) (b : Bytes) : Option ((String × Json) × Bytes) :=
  match fuel, skipBlanks b with
  | 0, _ => none
  | _, [] => none
  | fuel + 1, x :: rest =>
    if x == 0x22 then
      match readString rest with
      | some (name, rest) =>
        match skipBlanks rest with
        | 0x3a :: rest => (readValue fuel depth rest).map fun (v, rest) => ((name, v), rest)
        | _ => none
      | none => none
    else none

end

/-- How many containers may stand inside one another. -/
def depthLimit : Nat := 127

/-- The value that a text holds.  Every call of a reader takes at least one octet or is followed by
one that does, so twice the length is fuel enough. -/
def parse (b : Bytes) : Option Json :=
  match readValue (2 * b.length + 2) depthLimit b with
  | some (v, rest) => if (skipBlanks rest).isEmpty then some v else none
  | none => none

end SpeechClient.Json
