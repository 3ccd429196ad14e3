import SpeechClient.Number.Double

/-!
# JSON values

A value, its members and its elements, and the readings of a value as a text, a truth value or a
number.
-/

namespace SpeechClient

/-- A JSON number: an integer that fits a word of 64 bits, or a finite binary64 number. -/
inductive JsonNumber where
  /-- An integer from zero to the greatest unsigned word. -/
  | natural (n : Nat)
  /-- A negative integer not below the least signed word. -/
  | negative (i : Int)
  /-- Any other number. -/
  | double (x : Double)
  deriving DecidableEq, Repr

inductive Json where
  | null
  | bool (b : Bool)
  | number (n : JsonNumber)
  | string (s : String)
  | array (elements : List Json)
  /-- Members in ascending order of their names, each name once. -/
  | object (members : List (String × Json))
  deriving Repr, Inhabited

namespace Json

def insertMember (name : String) (value : Json) : List (String × Json) → List (String × Json)
  | [] => [(name, value)]
  | (n, v) :: rest =>
    if name < n then (name, value) :: (n, v) :: rest
    else if name = n then (name, value) :: rest
    else (n, v) :: insertMember name value rest

/-- The object with these members; of members with one name the last counts. -/
def ofMembers (members : List (String × Json)) : Json :=
  .object (members.foldl (fun acc (name, value) => insertMember name value acc) [])

def get? (name : String) : Json → Option Json
  | .object members => members.lookup name
  | _ => none

def asString? : Json → Option String
  | .string s => some s
  | _ => none

def asBool? : Json → Option Bool
  | .bool b => some b
  | _ => none

def asArray? : Json → Option (List Json)
  | .array elements => some elements
  | _ => none

def asInt? : Json → Option Int
  | .number (.natural n) => if n < UInt64.size / 2 then some n else none
  | .number (.negative i) => some i
  | _ => none

def asDouble? : Json → Option Double
  | .number (.natural n) => some (.ofNat n)
  | .number (.negative i) => some (.ofInt i)
  | .number (.double x) => some x
  | _ => none

def elementsOf (name : String) (j : Json) : List Json :=
  ((j.get? name).bind asArray?).getD []

def textOf (name : String) (j : Json) : String :=
  ((j.get? name).bind asString?).getD ""

end Json

end SpeechClient
