import SpeechClient.Text.Numeral

/-!
# The arguments of the command

The arguments are read from left to right.  An option that takes a value takes it after an equals
sign or from the next argument; after two hyphens alone only operands follow.  Reading stops at
the first fault, and at the first call for the help or the version.
-/

namespace SpeechClient.CommandLine

structure Arguments where
  audio : Bytes
  url : Option String := none
  user : Option String := none
  password : Option String := none
  model : Option String := none
  grammar : Option Bytes := none
  maxWait : Option Nat := none
  configFromEnv : Bool := false
  legacy : Bool := false
  json : Bool := false
  deriving DecidableEq, Repr

inductive Stop where
  | help
  | version
  | misuse
  deriving DecidableEq, Repr

inductive ValueOption where
  | url
  | user
  | password
  | model
  | grammar
  | maxWait
  deriving DecidableEq, Repr

inductive Switch where
  | configFromEnv
  | legacy
  | json
  | help
  | version
  deriving DecidableEq, Repr

inductive LongOption where
  | value (option : ValueOption)
  | switch (option : Switch)
  deriving DecidableEq, Repr

def longOption? (name : Bytes) : Option LongOption :=
  match name.text? with
  | some "url" => some (.value .url)
  | some "user" => some (.value .user)
  | some "password" => some (.value .password)
  | some "model" => some (.value .model)
  | some "grammar" => some (.value .grammar)
  | some "max-wait" => some (.value .maxWait)
  | some "config-from-env" => some (.switch .configFromEnv)
  | some "legacy" => some (.switch .legacy)
  | some "json" => some (.switch .json)
  | some "help" => some (.switch .help)
  | some "version" => some (.switch .version)
  | _ => none

structure Progress where
  given : Arguments := { audio := [] }
  hasOperand : Bool := false
  /-- The option whose value comes next. -/
  awaiting : Option ValueOption := none
  /-- Two hyphens have been read. -/
  operandsOnly : Bool := false
  deriving DecidableEq, Repr

namespace Progress

/-- A value, unless the option has one. -/
def once {α : Type} (current : Option α) (value : Option α) : Except Stop (Option α) :=
  match current, value with
  | none, some v => .ok (some v)
  | _, _ => .error .misuse

def path? (b : Bytes) : Option Bytes :=
  if b.isEmpty then none else some b

def takeValue (p : Progress) (option : ValueOption) (value : Bytes) : Except Stop Progress := do
  let given ← match option with
    | .url => pure { p.given with url := ← once p.given.url value.text? }
    | .user => pure { p.given with user := ← once p.given.user value.text? }
    | .password => pure { p.given with password := ← once p.given.password value.text? }
    | .model => pure { p.given with model := ← once p.given.model value.text? }
    | .grammar => pure { p.given with grammar := ← once p.given.grammar (path? value) }
    | .maxWait =>
      pure { p.given with maxWait := ← once p.given.maxWait (Numeral.below? UInt64.size value) }
  return { p with awaiting := none, given }

def takeSwitch (p : Progress) : Switch → Except Stop Progress
  | .help => .error .help
  | .version => .error .version
  | .configFromEnv =>
    if p.given.configFromEnv then .error .misuse
    else .ok { p with given := { p.given with configFromEnv := true } }
  | .legacy =>
    if p.given.legacy then .error .misuse
    else .ok { p with given := { p.given with legacy := true } }
  | .json =>
    if p.given.json then .error .misuse
    else .ok { p with given := { p.given with json := true } }

def takeOperand (p : Progress) (a : Bytes) : Except Stop Progress :=
  if p.hasOperand || a.isEmpty then .error .misuse
  else .ok { p with given := { p.given with audio := a }, hasOperand := true }

def equalsSign : UInt8 := 0x3d

def takeLong (p : Progress) (text : Bytes) : Except Stop Progress :=
  let name := text.takeWhile (· ≠ equalsSign)
  match longOption? name, text.drop name.length with
  | some (.value option), _ :: value => p.takeValue option value
  | some (.value option), [] => .ok { p with awaiting := some option }
  | some (.switch option), [] => p.takeSwitch option
  | _, _ => .error .misuse

def takeShort : Bytes → Except Stop Progress
  | 0x68 :: _ => .error .help
  | 0x56 :: _ => .error .version
  | _ => .error .misuse

def take (p : Progress) (a : Bytes) : Except Stop Progress :=
  if p.operandsOnly then p.takeOperand a
  else
    -- Where a value is awaited, an argument that looks like an option is no value.
    match p.awaiting, a with
    | some _, 0x2d :: _ :: _ => .error .misuse
    | some option, value => p.takeValue option value
    | none, [0x2d, 0x2d] => .ok { p with operandsOnly := true }
    | none, 0x2d :: 0x2d :: text => p.takeLong text
    | none, 0x2d :: letter :: rest => takeShort (letter :: rest)
    | none, operand => p.takeOperand operand

def finish (p : Progress) : Except Stop Arguments :=
  if p.awaiting.isSome || !p.hasOperand then .error .misuse else .ok p.given

end Progress

def Arguments.read (args : List Bytes) : Except Stop Arguments := do
  (← args.foldlM Progress.take {}).finish

end SpeechClient.CommandLine
