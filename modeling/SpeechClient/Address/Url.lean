import SpeechClient.Address.Host
import SpeechClient.Error

/-!
# Addresses

An address is read as a browser reads one and written in its normal form: scheme and host in small
letters, no port where it is the scheme's own, dots in the path resolved, and every part with its
own characters percent-encoded.
-/

namespace SpeechClient

inductive SchemeKind where
  /-- The web's own schemes: they have a host, and a backslash is a slash. -/
  | web
  | file
  | other
  deriving DecidableEq, Repr

/-- An address in its normal form. -/
structure Url where
  scheme : String
  text : String
  hasHost : Bool
  deriving DecidableEq, Repr, Inhabited

namespace Url

def kindOf (scheme : String) : SchemeKind :=
  if ["http", "https", "ws", "wss", "ftp"].contains scheme then .web
  else if scheme == "file" then .file
  else .other

/-- The port that a scheme has without being told. -/
def defaultPort? (scheme : String) : Option Nat :=
  match scheme with
  | "http" | "ws" => some 80
  | "https" | "wss" => some 443
  | "ftp" => some 21
  | _ => none

def isSlash (kind : SchemeKind) (c : Char) : Bool :=
  c == '/' || (c == '\\' && kind != .other)

def endsAuthority (kind : SchemeKind) (c : Char) : Bool :=
  isSlash kind c || c == '?' || c == '#'

/-! ## Scheme -/

def trimmed (s : String) : List Char :=
  ((s.toList.dropWhile (·.toNat ≤ 0x20)).reverse.dropWhile (·.toNat ≤ 0x20)).reverse

def isBreak (c : Char) : Bool :=
  c == '\t' || c == '\n' || c == '\r'

def unbroken (cs : List Char) : List Char :=
  cs.filter fun c => !isBreak c

def dropUnbroken : Nat → List Char → List Char
  | 0, cs => cs
  | _, [] => []
  | n + 1, c :: cs => if isBreak c then dropUnbroken (n + 1) cs else dropUnbroken n cs

def inScheme (c : Char) : Bool :=
  c.isAlphanum || c == '+' || c == '-' || c == '.'

def splitScheme (cs : List Char) : Except UrlError (String × List Char) :=
  match cs with
  | first :: _ =>
    if first.isAlpha then
      match cs.dropWhile inScheme with
      | ':' :: rest => .ok (String.ofList ((cs.takeWhile inScheme).map Char.toLower), rest)
      | _ => .error .noScheme
    else .error .noScheme
  | [] => .error .noScheme

/-! ## User and password -/

/-- What stands before the last at sign of the authority, and what follows it. -/
def splitUserInfo (kind : SchemeKind) (cs : List Char) : Option (List Char × List Char) :=
  let authority := cs.takeWhile fun c => !endsAuthority kind c
  let reversed := authority.reverse
  let host := (reversed.takeWhile (· != '@')).reverse
  if host.length = authority.length then none
  else some (authority.take (authority.length - host.length - 1),
    cs.drop (authority.length - host.length))

/-- User and password in their normal form, with the at sign; an empty password loses its colon. -/
def userInfoText (cs : List Char) : List Char :=
  let user := Percent.encode Percent.userInfo (cs.takeWhile (· != ':'))
  let password := Percent.encode Percent.userInfo ((cs.dropWhile (· != ':')).drop 1)
  let all := if password.isEmpty then user else user ++ [':'] ++ password
  if all.isEmpty then [] else all ++ ['@']

/-! ## Host and port -/

/-- How much of the text is the host: up to a colon outside brackets, or the end of the
authority. -/
def hostLength (kind : SchemeKind) (inBrackets : Bool) : List Char → Nat
  | [] => 0
  | c :: rest =>
    if (c == ':' && !inBrackets) || endsAuthority kind c then 0
    else 1 + hostLength kind (if c == '[' then true else if c == ']' then false else inBrackets) rest

/-- The port after a colon, unless it is the scheme's own, and what follows it. -/
def readPort (scheme : String) (cs : List Char) : Except UrlError (Option Nat × List Char) :=
  match cs with
  | ':' :: rest =>
    let digits := rest.takeWhile Char.isDigit
    let following := rest.dropWhile Char.isDigit
    let port := digits.foldl (fun n c => n * 10 + (c.toNat - 0x30)) 0
    let ends := match following with
      | c :: _ => c == '/' || c == '\\' || c == '?' || c == '#'
      | [] => true
    if 65535 < port ∨ !ends then .error .invalidPort
    else if digits.isEmpty ∨ defaultPort? scheme = some port then .ok (none, following)
    else .ok (some port, following)
  | _ => .ok (none, cs)

def readHostAndPort (scheme : String) (cs : List Char) : Except UrlError (List Char × List Char) := do
  let kind := kindOf scheme
  let length := hostLength kind false cs
  let (hostText, rest) := (cs.take length, cs.drop length)
  if hostText.isEmpty && (kind == .web || rest.head? == some ':') then throw .emptyHost
  let host ← if kind == .web then Host.parse hostText else Host.parseOpaque hostText
  let (port, rest) ← readPort scheme rest
  let portText := match port with
    | some p => ':' :: (toString p).toList
    | none => []
  return (host.text ++ portText, rest)

def readAuthority (scheme : String) (cs : List Char) : Except UrlError (List Char × List Char) := do
  match splitUserInfo (kindOf scheme) cs with
  | none => readHostAndPort scheme cs
  | some (user, rest) =>
    let hostMissing := match rest with
      | c :: _ => endsAuthority (kindOf scheme) c
      | [] => false
    if user.isEmpty && hostMissing then throw .emptyHost
    let userText := userInfoText user
    let (hostText, following) ← readHostAndPort scheme rest
    if hostText.isEmpty && !userText.isEmpty then throw .emptyHost
    return (userText ++ hostText, following)

/-! ## Path -/

def isSingleDot (segment : List Char) : Bool :=
  [".", "%2e", "%2E"].contains (String.ofList segment)

def isDoubleDot (segment : List Char) : Bool :=
  ["..", "%2e%2e", "%2e%2E", "%2E%2e", "%2E%2E", "%2e.", "%2E.", ".%2e", ".%2E"].contains
    (String.ofList segment)

def isDrive : List Char → Bool
  | [letter, mark] => letter.isAlpha && (mark == ':' || mark == '|')
  | _ => false

def isOnDrive : List Char → Bool
  | letter :: mark :: rest => isDrive [letter, mark] && (rest.isEmpty || rest.head? == some '\\')
  | _ => false

/-- The segments, which stand in reverse, without the last one; a drive stays. -/
def shorten : List (List Char) → List (List Char)
  | [] => []
  | segment :: rest => if isOnDrive segment then segment :: rest else rest

/-- A path as far as it is resolved. -/
structure Resolved where
  done : List (List Char) := []
  hasDrive : Bool := false

/-- The letter of a drive with its colon, if a break parts it from the rest of the segment, and that
rest. -/
def splitDrive? (segment : List Char) : Option (List Char × List Char) :=
  match segment.dropWhile isBreak with
  | letter :: afterLetter =>
    match afterLetter.dropWhile isBreak with
    | ':' :: rest =>
      if letter.isAlpha && rest.head?.any isBreak && !(unbroken rest).isEmpty then
        some ([letter, ':'], unbroken rest)
      else none
    | _ => none
  | [] => none

namespace Resolved

/-- A segment that is no dots comes next.  The letter of a drive at the start of a file's path has a
colon. -/
def append (p : Resolved) (kind : SchemeKind) (segment : List Char) : Resolved :=
  match segment with
  | letter :: _ =>
    if kind == .file && p.done.isEmpty && isDrive segment then
      { done := [[letter, ':']], hasDrive := true }
    else { p with done := segment :: p.done }
  | [] => { p with done := segment :: p.done }

/-- A segment comes next; where it is the last, dots leave a slash at the end.  At the start of a
file's path a drive is parted from what follows a break, and that is taken as it stands. -/
def step (p : Resolved) (kind : SchemeKind) (isLast : Bool) (segment : List Char) : Resolved :=
  let slash := if isLast then [[]] else []
  let text := Percent.encode Percent.path (unbroken segment)
  match if kind == .file && p.done.isEmpty then splitDrive? segment else none with
  | some (drive, rest) => { p with done := [Percent.encode Percent.path rest, drive] }
  | none =>
    if isDoubleDot text then { p with done := slash ++ shorten p.done }
    else if isSingleDot text then { p with done := slash ++ p.done }
    else p.append kind text

end Resolved

def resolve (kind : SchemeKind) (p : Resolved) : List (List Char) → Resolved
  | [] => p
  | segment :: rest => resolve kind (p.step kind rest.isEmpty segment) rest

def resolved (kind : SchemeKind) (path : List Char) : Resolved :=
  resolve kind {} (pieces (isSlash kind) path)

def segments (kind : SchemeKind) (path : List Char) : List (List Char) :=
  let inner := match path with
    | c :: rest => if isSlash kind c then rest else c :: rest
    | [] => []
  (resolved kind inner).done.reverse

def joined (segments : List (List Char)) : List Char :=
  segments.flatMap ('/' :: ·)

/-- The segments without the empty ones at the start; one is left. -/
def withoutLeadingEmpty (segments : List (List Char)) : List (List Char) :=
  match segments.dropWhile List.isEmpty with
  | [] => [[]]
  | rest => rest

def inPath (c : Char) : Bool :=
  c != '?' && c != '#'

/-! ## Query and fragment -/

def tailText (kind : SchemeKind) (cs : List Char) : List Char :=
  let (query, rest) := match cs with
    | '?' :: following =>
      let set := if kind == .other then Percent.query else Percent.specialQuery
      ('?' :: Percent.encode set (following.takeWhile (· != '#')), following.dropWhile (· != '#'))
    | _ => ([], cs)
  let fragment := match rest with
    | '#' :: following => '#' :: Percent.encode Percent.fragment following
    | _ => []
  query ++ fragment

/-! ## Whole addresses -/

def ofAuthority (scheme : String) (cs : List Char) : Except UrlError Url := do
  let kind := kindOf scheme
  let (authority, rest) ← readAuthority scheme cs
  let path := rest.takeWhile inPath
  let pathText := if kind == .other && path.isEmpty then [] else joined (segments kind path)
  return {
    scheme
    text := scheme ++ "://" ++
      String.ofList (authority ++ pathText ++ tailText kind (rest.dropWhile inPath))
    hasHost := !authority.isEmpty }

/-- The host of a file in its normal form, after the two slashes, and how much of the text it takes
up, with the slash that follows it.  The letter of a drive is no host, and the machine itself is not
named; the slash that follows no host belongs to the path. -/
def readFileHost (cs : List Char) : Except UrlError (List Char × Nat) := do
  let text := cs.takeWhile fun c => !endsAuthority .file c
  if isDrive text then return ([], 0)
  if text.isEmpty then return ([], 0)
  let host := (← Host.parse text).text
  if String.ofList host == "localhost" then return ([], text.length)
  let slash := if (cs.drop text.length).head?.any (isSlash .file) then 1 else 0
  return (host, text.length + slash)

def ofFile (cs : List Char) : Except UrlError Url := do
  let (host, length) ← match unbroken cs with
    | a :: b :: rest =>
      if isSlash .file a && isSlash .file b then do
        let (host, length) ← readFileHost rest
        pure (host, length + 2)
      else pure ([], if isSlash .file a then 1 else 0)
    | [a] => pure ([], if isSlash .file a then 1 else 0)
    | [] => pure ([], 0)
  let rest := dropUnbroken length cs
  let path := resolved .file (rest.takeWhile inPath)
  let host := if path.hasDrive then [] else host
  return {
    scheme := "file"
    text := "file://" ++ String.ofList (host ++ joined (withoutLeadingEmpty path.done.reverse) ++
      tailText .file (unbroken (rest.dropWhile inPath)))
    hasHost := !host.isEmpty }

/-- An address without an authority, of a scheme that is not the web's.  What does not begin with a
slash is kept almost as it is.  A path that would look like an authority begins with a full stop. -/
def ofPath (scheme : String) (cs : List Char) : Url :=
  let path := cs.takeWhile inPath
  let pathText := if path.head? == some '/' then joined (segments .other path)
    else Percent.encode Percent.control path
  let start := if "//".toList.isPrefixOf pathText then "/." else ""
  { scheme
    text := scheme ++ ":" ++ start ++
      String.ofList (pathText ++ tailText .other (cs.dropWhile inPath))
    hasHost := false }

def parse (s : String) : Except UrlError Url := do
  let text := trimmed s
  let (scheme, rest) ← splitScheme (unbroken text)
  match kindOf scheme with
  | .web => ofAuthority scheme (rest.dropWhile (isSlash .web))
  | .file => ofFile ((text.dropWhile (· != ':')).drop 1)
  | .other =>
    match rest with
    | '/' :: '/' :: following => ofAuthority scheme following
    | _ => return ofPath scheme rest

def ofServer (s : String) : Except ConfigError Url :=
  match parse s with
  | .error e => .error (.invalidUrl s e.message)
  | .ok url =>
    if url.scheme == "ws" || url.scheme == "wss" then .ok url
    else .error (.invalidUrl s
      ("unsupported scheme '" ++ url.scheme ++ "', expected ws or wss"))

end Url

end SpeechClient
