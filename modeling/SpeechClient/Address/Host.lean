import SpeechClient.Address.Domain
import SpeechClient.Address.Percent
import SpeechClient.Text.Digits

/-!
# Hosts

The host of an address is a domain name, an IPv4 address in any of its notations, or an IPv6
address in brackets.
-/

namespace SpeechClient

inductive Host where
  | domain (name : List Char)
  | ipv4 (number : Nat)
  /-- Eight pieces of 16 bits. -/
  | ipv6 (pieces : List Nat)
  deriving DecidableEq, Repr

namespace Host

/-! ## IPv4 -/

/-- A part of an IPv4 address: decimal, octal after a zero, hexadecimal after `0x`. -/
def ipv4Part? (part : List Char) : Option Nat :=
  match part with
  | [] => none
  | '0' :: 'x' :: rest => Digits.number? 16 rest
  | '0' :: 'X' :: rest => Digits.number? 16 rest
  | '0' :: c :: rest => Digits.number? 8 (c :: rest)
  | digits => Digits.number? 10 digits

/-- The last label, an empty one at the end left out, is a number: the host can only be IPv4. -/
def endsInNumber (name : List Char) : Bool :=
  match (Domain.labels name).reverse with
  | [] :: last :: _ => isNumber last
  | [] :: [] => false
  | last :: _ => isNumber last
  | [] => false
where
  /-- All digits, or a part of an IPv4 address. -/
  isNumber (label : List Char) : Bool :=
    (!label.isEmpty && label.all fun c => 0x30 ≤ c.toNat && c.toNat ≤ 0x39) ||
      (ipv4Part? label).isSome

/-- The address of up to four parts; the last part fills all octets that are left. -/
def ipv4Number? (parts : List Nat) : Option Nat :=
  match parts.reverse with
  | [] => none
  | last :: front =>
    let front := front.reverse
    if front.length ≤ 3 ∧ last < Nat.pow 256 (4 - front.length) ∧ front.all (· < 256) then
      some (front.zipIdx.foldl (fun n (part, i) => n + part * Nat.pow 256 (3 - i)) last)
    else none

def parseIpv4 (name : List Char) : Except UrlError Nat :=
  let parts := Domain.labels name
  let parts := if parts.getLast? = some [] then parts.dropLast else parts
  match (parts.mapM ipv4Part?).bind ipv4Number? with
  | some n => .ok n
  | none => .error .invalidIpv4

def ipv4Text (n : Nat) : List Char :=
  (".".intercalate ([n >>> 24, (n >>> 16) % 256, (n >>> 8) % 256, n % 256].map toString)).toList

/-! ## IPv6 -/

def colonParts (cs : List Char) : List (List Char) :=
  SpeechClient.pieces (· == ':') cs

def octet? (digits : List Char) : Option Nat :=
  if digits.isEmpty || (digits.head? = some '0' && digits.length ≠ 1) then none
  else (Digits.number? 10 digits).filter (· < 256)

def embeddedIpv4? (part : List Char) : Option (List Nat) :=
  match (Domain.labels part).mapM octet? with
  | some [a, b, c, d] => some [a * 256 + b, c * 256 + d]
  | _ => none

def piece? (digits : List Char) : Option Nat :=
  if digits.isEmpty || 4 < digits.length then none else Digits.number? 16 digits

/-- Pieces in a row; only the last may be an IPv4 address. -/
def pieces? : List (List Char) → Option (List Nat)
  | [] => some []
  | [part] => (piece? part).map ([·]) <|> embeddedIpv4? part
  | part :: rest => do return (← piece? part) :: (← pieces? rest)

def splitGap (before : List Char) : List Char → Option (List Char × List Char)
  | ':' :: ':' :: rest => some (before.reverse, rest)
  | c :: rest => splitGap (c :: before) rest
  | [] => none

def rowOf? (cs : List Char) : Option (List Nat) :=
  if cs.isEmpty then some [] else pieces? (colonParts cs)

/-- An IPv6 address: eight pieces, or fewer around a gap that stands for at least one zero. -/
def parseIpv6 (cs : List Char) : Except UrlError (List Nat) :=
  let found : Option (List Nat) :=
    match splitGap [] cs with
    | none => (pieces? (colonParts cs)).filter (·.length == 8)
    | some (before, after) => do
      let front ← rowOf? before
      let back ← rowOf? after
      if before.contains '.' then none
      else if front.length + back.length ≤ 7 then
        some (front ++ List.replicate (8 - front.length - back.length) 0 ++ back)
      else none
  match found with
  | some pieces => .ok pieces
  | none => .error .invalidIpv6

def zeros (pieces : List Nat) : Nat :=
  (pieces.takeWhile (· == 0)).length

def longestGap (pieces : List Nat) : Nat × Nat :=
  (List.range pieces.length).foldl (fun (start, length) i =>
    let here := zeros (pieces.drop i)
    if length < here then (i, here) else (start, length)) (0, 0)

def piecesText (pieces : List Nat) : String :=
  ":".intercalate (pieces.map fun n => String.ofList (Nat.toDigits 16 n))

/-- The shortest text of an IPv6 address, without brackets: a run of at least two zeros is left
out. -/
def ipv6Text (pieces : List Nat) : List Char :=
  let (start, length) := longestGap pieces
  if length < 2 then (piecesText pieces).toList
  else (piecesText (pieces.take start) ++ "::" ++ piecesText (pieces.drop (start + length))).toList

/-! ## Reading and writing -/

def decoded (cs : List Char) : Option (List Char) :=
  (Percent.decode (utf8 (String.ofList cs))).text?.map String.toList

def parseBracketed (cs : List Char) : Except UrlError Host :=
  if cs.getLast? = some ']' then (parseIpv6 (cs.drop 1).dropLast).map .ipv6
  else .error .invalidIpv6

def parse (cs : List Char) : Except UrlError Host :=
  if cs.head? = some '[' then parseBracketed cs
  else
    match decoded cs with
    | none => .error .invalidDomain
    | some name => do
      let name ← Domain.toAscii name
      if name.isEmpty then throw .emptyHost
      if endsInNumber name then return .ipv4 (← parseIpv4 name)
      return .domain name

def forbiddenOpaque (c : Char) : Bool :=
  "\x00\t\n\r #/:<>?@[\\]^|".toList.contains c

def parseOpaque (cs : List Char) : Except UrlError Host :=
  if cs.head? = some '[' then parseBracketed cs
  else if cs.any forbiddenOpaque then .error .invalidHostCharacter
  else .ok (.domain (Percent.encode Percent.control cs))

def text : Host → List Char
  | .domain name => name
  | .ipv4 n => ipv4Text n
  | .ipv6 pieces => '[' :: ipv6Text pieces ++ [']']

end Host

end SpeechClient
