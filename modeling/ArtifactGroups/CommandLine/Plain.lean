import ArtifactGroups.Text.CharRange

/-! Plain text for messages. An argument that is quoted in a message may hold control characters
and escape sequences for a terminal; none of them reaches the reader of the message. -/
namespace ArtifactGroups.CommandLine

namespace Plain

open Text (CharRange)

/-- How far the head of a device control string has come. -/
inductive Head where
  | opening
  | parameters
  /-- Behind a mark, so that parameters are over. -/
  | marks
  deriving DecidableEq, Repr

/-- Where a text stands between the parts that are shown. -/
inductive Mode where
  | shown
  /-- Behind an escape character. -/
  | escape
  /-- Behind an escape character and a mark, up to the character that both of them qualify. -/
  | qualified
  /-- In a control sequence, up to its final letter. -/
  | sequence
  /-- In a command to the system around the terminal, up to a bell. -/
  | command
  /-- In the head of a device control string. -/
  | device (head : Head)
  /-- In a string that only the string terminator ends. -/
  | string
  deriving DecidableEq, Repr

def escapeChar : Char := '\x1b'

def bell : Char := '\x07'

/-- Control characters that lay out text. -/
def isLayout (c : Char) : Bool := c == '\t' || c == '\n' || c == '\x0c' || c == '\r'

/-- Control characters that break off a sequence. -/
def isBreak (c : Char) : Bool := c == '\x18' || c == '\x1a'

def isControl (c : Char) : Bool := c.toNat < 0x20 || c == '\x7f'

/-- The space and the punctuation that may stand in front of a final character. -/
def isMark (c : Char) : Bool := CharRange.covers (0x20, 0x2F) c

def endsEscape (c : Char) : Bool := CharRange.covers (0x30, 0x7E) c

def endsSequence (c : Char) : Bool := CharRange.covers (0x40, 0x7E) c

def isParameter (c : Char) : Bool := c.isDigit || c == ';'

/-- The signs that may stand once, in front of the parameters. -/
def isPrivate (c : Char) : Bool := CharRange.covers (0x3C, 0x3F) c

/-- The string terminator is the byte `0x9C` and not a character: it counts wherever it stands,
also inside the encoding of another character. -/
def terminates (c : Char) : Bool := (String.utf8EncodeChar c).contains 0x9C

def afterEscape (c : Char) : Mode :=
  if c = '[' then .sequence
  else if c = ']' then .command
  else if c = 'P' then .device .opening
  else if c = 'X' ∨ c = '^' ∨ c = '_' then .string
  else if isMark c then .qualified
  else if endsEscape c then .shown
  else .escape

/-- The head ends with the first character that cannot stand in it; what is no visible ASCII
character is passed over. -/
def Head.after (head : Head) (c : Char) : Mode :=
  if isMark c then .device .marks
  else if !endsEscape c then .device head
  else match head with
    | .opening => if isParameter c || isPrivate c then .device .parameters else .string
    | .parameters => if isParameter c then .device .parameters else .string
    | .marks => .string

/-- The mode after a character, and whether the character is shown. Layout is shown inside a
sequence too and ends it, but it is part of a string. -/
def next (mode : Mode) (c : Char) : Mode × Bool :=
  if c = escapeChar then (.escape, false)
  else if isBreak c then (.shown, false)
  else match mode with
    | .shown => (.shown, isLayout c || !isControl c)
    | .escape => if isLayout c then (.shown, true) else (afterEscape c, false)
    | .qualified =>
      if isLayout c then (.shown, true)
      else (if endsEscape c then .shown else .qualified, false)
    | .sequence =>
      if isLayout c then (.shown, true)
      else (if endsSequence c then .shown else .sequence, false)
    | .command => (if c = bell then .shown else .command, false)
    | .device head => (head.after c, false)
    | .string => (if terminates c then .shown else .string, false)

def strip : Mode → List Char → List Char
  | _, [] => []
  | mode, c :: rest =>
    let (mode, shown) := next mode c
    if shown then c :: strip mode rest else strip mode rest

end Plain

def plain (text : String) : String := String.ofList (Plain.strip .shown text.toList)

end ArtifactGroups.CommandLine
