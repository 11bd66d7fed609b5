import ArtifactGroups.Error
import ArtifactGroups.Text.Utf8

/-! Reading lines. A line ends with a newline, before which one carriage return is dropped;
what follows the last newline is a line too, unless it is empty. The first line that is not
UTF-8 ends the reading, and so does a failing stream, which takes its unfinished line along. -/
namespace ArtifactGroups.Alias

/-- The bytes that a stream delivers, and how it fails after them, if it does. -/
structure Input where
  bytes : Bytes
  failure : Option IoError := none

namespace Input

def newline : UInt8 := 0x0A

def carriageReturn : UInt8 := 0x0D

/-- Drops one carriage return at the end of a finished line. -/
def withoutReturn (line : Bytes) : Bytes :=
  if line.getLast? = some carriageReturn then line.dropLast else line

/-- The finished lines, and what follows the last newline. -/
def cut (bytes : Bytes) : List Bytes × Bytes :=
  let pieces := bytes.splitOn newline
  (pieces.dropLast.map withoutReturn, pieces.getLast?.getD [])

/-- The texts up to the first line that is not UTF-8. -/
def decode : List Bytes → List String × Option IoError
  | [] => ([], none)
  | line :: rest =>
    match Text.ofUtf8? line with
    | none => ([], some .notUtf8)
    | some text =>
      let (texts, failure) := decode rest
      (text :: texts, failure)

def lines (input : Input) : List String × Option IoError :=
  let (finished, unfinished) := cut input.bytes
  match input.failure with
  | some failure =>
    let (texts, undecodable) := decode finished
    (texts, some (undecodable.getD failure))
  | none => decode (if unfinished.isEmpty then finished else finished ++ [unfinished])

end Input

end ArtifactGroups.Alias
