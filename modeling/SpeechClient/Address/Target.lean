import SpeechClient.Address.Url

/-!
# The target of a request

A request for a connection names its target by address, in a form that is narrower than that of
addresses at large: there is a limit to its length and to that of its scheme, it names a host, and
the host holds few characters.
-/

namespace SpeechClient

inductive TargetError where
  | tooLong
  | schemeTooLong
  | empty
  | invalidCharacter
  | invalidAuthority
  | invalidFormat
  deriving DecidableEq, Repr

def TargetError.message : TargetError → String
  | .tooLong => "uri too long"
  | .schemeTooLong => "scheme too long"
  | .empty => "empty string"
  | .invalidCharacter => "invalid uri character"
  | .invalidAuthority => "invalid authority"
  | .invalidFormat => "invalid format"

namespace Target

def lengthLimit : Nat := 65534

def schemeLimit : Nat := 64

/-- The most colons between two at signs or brackets. -/
def colonLimit : Nat := 8

def afterScheme? (target : List Char) : Except TargetError (Option (List Char)) :=
  let scheme := target.takeWhile Url.inScheme
  match target.drop scheme.length with
  | ':' :: '/' :: '/' :: rest =>
    if schemeLimit < scheme.length then .error .schemeTooLong else .ok (some rest)
  | _ => .ok none

def inAuthority (c : Char) : Bool :=
  c.isAlphanum || "!$&'()*+,-.;=_~".toList.contains c

/-- What is known of an authority up to a place in it. -/
structure Seen where
  colons : Nat := 0
  opened : Bool := false
  closed : Bool := false
  percent : Bool := false
  afterAt : Bool := false

/-- An authority may end here: brackets are in pairs, at most one colon comes before a port, only the
user holds a percent sign, and something follows an at sign. -/
def Seen.mayEnd (s : Seen) : Bool :=
  s.opened == s.closed && s.colons ≤ 1 && !s.afterAt && !s.percent

def afterAuthority (s : Seen) : List Char → Except TargetError (List Char)
  | [] => if s.mayEnd then .ok [] else .error .invalidAuthority
  | c :: rest =>
    let here := { s with afterAt := false }
    match c with
    | '/' | '?' | '#' => if s.mayEnd then .ok (c :: rest) else .error .invalidAuthority
    | ':' =>
      if colonLimit ≤ s.colons then .error .invalidAuthority
      else afterAuthority { here with colons := s.colons + 1 } rest
    | '[' =>
      if s.percent || s.opened then .error .invalidAuthority
      else afterAuthority { here with opened := true } rest
    | ']' =>
      if !s.opened || s.closed then .error .invalidAuthority
      else afterAuthority { here with closed := true, colons := 0, percent := false } rest
    | '@' => afterAuthority { s with colons := 0, percent := false, afterAt := true } rest
    | '%' => afterAuthority { here with percent := true } rest
    | c => if inAuthority c then afterAuthority here rest else .error .invalidCharacter

def check (url : Url) : Except TargetError Unit := do
  let target := url.text.toList
  if lengthLimit < target.length then throw .tooLong
  match ← afterScheme? target with
  | some authority =>
    if authority.isEmpty then throw .empty
    let rest ← afterAuthority {} authority
    if rest.length = authority.length then throw .invalidFormat
  | none =>
    let rest ← afterAuthority {} target
    if !rest.isEmpty then throw .invalidFormat

end Target

end SpeechClient
