import ArtifactGroups.Text.Utf8

/-! Reading a JSON object whose members are all strings. The reader takes one character at a
time and keeps the members in the order of the text; any other text is refused. -/
namespace ArtifactGroups.Alias.Json

/-- Where a string stands inside an escape. A character beyond the basic plane is escaped as
two units, of which `high` is the first. -/
inductive Escape where
  | outside
  | begun
  | unit (left value : Nat) (high : Option Nat)
  | second (high : Nat)
  | secondBegun (high : Nat)
  deriving DecidableEq, Repr

structure Partial where
  text : String := ""
  escape : Escape := .outside
  deriving DecidableEq, Repr

def simpleEscape? : Char → Option Char
  | '"' => some '"'
  | '\\' => some '\\'
  | '/' => some '/'
  | 'b' => some '\x08'
  | 'f' => some '\x0c'
  | 'n' => some '\n'
  | 'r' => some '\r'
  | 't' => some '\t'
  | _ => none

def hexDigit? (c : Char) : Option Nat :=
  if '0' ≤ c ∧ c ≤ '9' then some (c.toNat - 0x30)
  else if 'a' ≤ c ∧ c ≤ 'f' then some (c.toNat - 0x61 + 10)
  else if 'A' ≤ c ∧ c ≤ 'F' then some (c.toNat - 0x41 + 10)
  else none

namespace Partial

def push (part : Partial) (c : Char) : Partial := ⟨part.text.push c, .outside⟩

/-- A whole unit: a character, or half of one that has to be completed. -/
def endUnit (part : Partial) (value : Nat) : Option Nat → Option Partial
  | none =>
    if 0xD800 ≤ value ∧ value < 0xDC00 then some { part with escape := .second value }
    else if 0xDC00 ≤ value ∧ value < 0xE000 then none
    else some (part.push (Char.ofNat value))
  | some high =>
    if 0xDC00 ≤ value ∧ value < 0xE000 then
      some (part.push (Char.ofNat (0x10000 + (high - 0xD800) * 0x400 + (value - 0xDC00))))
    else none

def step (part : Partial) (c : Char) : Option Partial :=
  match part.escape with
  | .outside =>
    if c = '\\' then some { part with escape := .begun }
    else if c.toNat < 0x20 then none
    else some (part.push c)
  | .begun =>
    if c = 'u' then some { part with escape := .unit 4 0 none }
    else (simpleEscape? c).map part.push
  | .unit left value high =>
    (hexDigit? c).bind fun digit =>
      let value := value * 16 + digit
      if 1 < left then some { part with escape := .unit (left - 1) value high }
      else part.endUnit value high
  | .second high => if c = '\\' then some { part with escape := .secondBegun high } else none
  | .secondBegun high =>
    if c = 'u' then some { part with escape := .unit 4 0 (some high) } else none

def closedBy (part : Partial) (c : Char) : Bool := part.escape = .outside && c == '"'

end Partial

/-- What the reader has just passed, or is inside of. -/
inductive Phase where
  | start
  | brace
  | key (part : Partial)
  | keyEnd (key : String)
  | colon (key : String)
  | value (key : String) (part : Partial)
  | valueEnd
  | comma
  | done
  deriving DecidableEq, Repr

structure Reader where
  members : List (String × String) := []
  phase : Phase := .start
  deriving DecidableEq, Repr

def isSpace (c : Char) : Bool := c == ' ' || c == '\t' || c == '\n' || c == '\r'

namespace Reader

def enter (reader : Reader) (phase : Phase) : Option Reader := some { reader with phase }

def step (reader : Reader) (c : Char) : Option Reader :=
  match reader.phase with
  | .key part =>
    if part.closedBy c then reader.enter (.keyEnd part.text)
    else (part.step c).bind fun part => reader.enter (.key part)
  | .value key part =>
    if part.closedBy c then some ⟨reader.members ++ [(key, part.text)], .valueEnd⟩
    else (part.step c).bind fun part => reader.enter (.value key part)
  | phase =>
    if isSpace c then some reader
    else match phase, c with
      | .start, '{' => reader.enter .brace
      | .brace, '"' | .comma, '"' => reader.enter (.key {})
      | .brace, '}' | .valueEnd, '}' => reader.enter .done
      | .keyEnd key, ':' => reader.enter (.colon key)
      | .colon key, '"' => reader.enter (.value key {})
      | .valueEnd, ',' => reader.enter .comma
      | _, _ => none

def finish? (reader : Reader) : Option (List (String × String)) :=
  if reader.phase = .done then some reader.members else none

end Reader

/-- The members of an object in the order of the text, repeated keys included. -/
def members? (text : List Char) : Option (List (String × String)) :=
  (text.foldlM Reader.step {}).bind Reader.finish?

/-- A text that is not UTF-8 is no object. -/
def membersOfBytes? (bytes : Bytes) : Option (List (String × String)) :=
  (Text.ofUtf8? bytes).bind fun text => members? text.toList

end ArtifactGroups.Alias.Json
