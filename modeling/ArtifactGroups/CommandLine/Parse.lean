import ArtifactGroups.CommandLine.Command
import ArtifactGroups.CommandLine.Number
import ArtifactGroups.CommandLine.Plain

/-! Reading a command line, one argument at a time. A value is kept as text until the next
flag or operand, or the end, asks for it to be settled; only then it is read, and only then
a missing or repeated value is noticed. -/
namespace ArtifactGroups.CommandLine

inductive UsageError where
  | missingOperand
  | missingValue (shown : String)
  | repeated (shown : String)
  | invalidNumber (value shown : String) (fault : NumberFault)
  | unexpectedArgument (argument : String)
  | unexpectedValue (value shown : String)
  deriving DecidableEq, Repr

def inQuotes (argument : String) : String := "'" ++ plain argument ++ "'"

def UsageError.message : UsageError → String
  | .missingOperand => "error: the following required arguments were not provided:"
  | .missingValue shown =>
    "error: a value is required for " ++ inQuotes shown ++ " but none was supplied"
  | .repeated shown => "error: the argument " ++ inQuotes shown ++ " cannot be used multiple times"
  | .invalidNumber value shown fault =>
    "error: invalid value " ++ inQuotes value ++ " for " ++ inQuotes shown ++ ": " ++ fault.message
  | .unexpectedArgument argument => "error: unexpected argument " ++ inQuotes argument ++ " found"
  | .unexpectedValue value shown =>
    "error: unexpected value " ++ inQuotes value ++ " for " ++ inQuotes shown
      ++ " found; no more were expected"

inductive Stop where
  | usage (error : UsageError)
  | help
  | version
  deriving DecidableEq, Repr

inductive Setting where
  | present
  | text (value : String)
  | number (value : Nat)
  deriving DecidableEq, Repr

/-- Settings under the long names of their flags, or under the name of the operand. -/
abbrev Settings := List (String × Setting)

namespace Settings

def has (settings : Settings) (name : String) : Bool := settings.any (·.1 == name)

def text? (settings : Settings) (name : String) : Option String :=
  settings.findSome? fun
    | (other, .text value) => if other = name then some value else none
    | _ => none

def number? (settings : Settings) (name : String) : Option Nat :=
  settings.findSome? fun
    | (other, .number value) => if other = name then some value else none
    | _ => none

/-- A counter stays at its largest value. -/
def count (settings : Settings) (name : String) : Nat :=
  min 255 (settings.countP (·.1 == name))

end Settings

/-- A flag or operand whose value is not settled yet; without a value it takes the next
argument that is no flag. -/
structure Pending where
  name : String
  shown : String
  form : ValueForm
  value : Option String
  deriving DecidableEq, Repr

structure State where
  settings : Settings := []
  pending : Option Pending := none
  operandSeen : Bool := false
  /-- Everything after a bare `--` is an operand. -/
  trailing : Bool := false
  deriving DecidableEq, Repr

namespace State

def fail {α : Type} (error : UsageError) : Except Stop α := .error (.usage error)

def add (state : State) (name : String) (setting : Setting) : State :=
  { state with settings := state.settings ++ [(name, setting)] }

/-- Reads a value in the form that its flag wants. A path is any text but the empty one. -/
def readValue (pending : Pending) (value : String) : Except Stop Setting :=
  match pending.form with
  | .path => if value.isEmpty then fail (.missingValue pending.shown) else .ok (.text value)
  | .count =>
    match positive value with
    | .ok n => .ok (.number n)
    | .error fault => fail (.invalidNumber value pending.shown fault)

/-- Settles a value: it has to be there, to be the first, and to be readable. -/
def settleValue (state : State) (pending : Pending) : Except Stop State :=
  match pending.value with
  | none => fail (.missingValue pending.shown)
  | some value => do
    if state.settings.has pending.name then fail (.repeated pending.shown)
    let setting ← readValue pending value
    .ok (state.add pending.name setting)

def settle (state : State) : Except Stop State :=
  match state.pending with
  | none => .ok state
  | some pending => { state with pending := none }.settleValue pending

def act (state : State) (flag : Flag) : Except Stop State := do
  let state ← state.settle
  match flag.action with
  | .help => .error .help
  | .version => .error .version
  | .counter => .ok (state.add flag.long .present)
  | _ =>
    if state.settings.has flag.long then fail (.repeated flag.shown)
    else .ok (state.add flag.long .present)

/-- A flag that takes a value. A value that is attached to the flag is settled at once. -/
def expect (state : State) (flag : Flag) (form : ValueForm) (attached : Option String) :
    Except Stop State := do
  let state ← state.settle
  let pending : Pending := ⟨flag.long, flag.shown, form, attached⟩
  match attached with
  | some _ => state.settleValue pending
  | none => .ok { state with pending := some pending }

def operand (state : State) (command : Command) (value : String) : Except Stop State :=
  if state.operandSeen then fail (.unexpectedArgument value)
  else do
    let state ← state.settle
    .ok { state with
      operandSeen := true
      pending := some ⟨command.operand.name, command.operand.shown, .path, some value⟩ }

/-- The argument after two hyphens: a name, and a value behind the first equals sign. -/
def long (state : State) (command : Command) (argument : List Char) : Except Stop State :=
  let name := String.ofList (argument.takeWhile (· != '='))
  let value : Option String :=
    match argument.dropWhile (· != '=') with
    | [] => none
    | _ :: value => some (String.ofList value)
  match command.byLong? name with
  | none => fail (.unexpectedArgument ("--" ++ name))
  | some flag =>
    match flag.action, value with
    | .value _ form _, _ => state.expect flag form value
    | _, some value => fail (.unexpectedValue value flag.shown)
    | _, none => state.act flag

/-- The letters after one hyphen. A letter that wants a value takes the rest of them, without
an equals sign in front. -/
def letters (state : State) (command : Command) : List Char → Except Stop State
  | [] => .ok state
  | letter :: rest =>
    match command.byShort? letter with
    | none => fail (.unexpectedArgument ("-" ++ letter.toString))
    | some flag =>
      match flag.action, rest with
      | .value _ form _, [] => state.expect flag form none
      | .value _ form _, '=' :: value => state.expect flag form (some (String.ofList value))
      | .value _ form _, value => state.expect flag form (some (String.ofList value))
      | _, rest => do
        let state ← state.act flag
        state.letters command rest

/-- An argument that is no flag: the value that a flag waits for, or the operand. -/
def plain (state : State) (command : Command) (argument : String) : Except Stop State :=
  match state.pending with
  | some { name, shown, form, value := none } =>
    .ok { state with pending := some ⟨name, shown, form, some argument⟩ }
  | _ => state.operand command argument

def step (command : Command) (state : State) (argument : String) : Except Stop State :=
  if state.trailing then state.operand command argument
  else match argument.toList with
    | ['-', '-'] => .ok { state with trailing := true }
    | '-' :: '-' :: rest => state.long command rest
    | '-' :: letter :: rest => state.letters command (letter :: rest)
    | _ => state.plain command argument

def finish (command : Command) (state : State) : Except Stop Settings := do
  let state ← state.settle
  if command.operand.default.isNone && !state.settings.has command.operand.name then
    fail .missingOperand
  else .ok state.settings

end State

def Command.parse (command : Command) (arguments : List String) : Except Stop Settings := do
  (← arguments.foldlM (State.step command) {}).finish command

end ArtifactGroups.CommandLine
