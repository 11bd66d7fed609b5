import ArtifactGroups.Error
import ArtifactGroups.Text.Utf8

/-! A sink is the far end of a stream: it keeps what was done to it and may run full or fail
to flush. -/
namespace ArtifactGroups

inductive SinkAct where
  | stored (piece : Bytes)
  | flushed
  deriving DecidableEq

def SinkAct.bytes : SinkAct → Bytes
  | .stored piece => piece
  | .flushed => []

/-- `room` is the number of bytes that are still accepted, if there is a bound. `flushesOk`
more flushes succeed before `flushError`, if there is one, answers every further flush. -/
structure Sink where
  /-- Writes and flushes, the latest first. -/
  history : List SinkAct := []
  room : Option Nat := none
  writeError : IoError := .stream .other "disk full"
  flushError : Option IoError := none
  flushesOk : Nat := 0
  deriving DecidableEq

namespace Sink

def stored (sink : Sink) : Bytes := sink.history.reverse.flatMap (·.bytes)

def flushes (sink : Sink) : Nat := sink.history.count .flushed

def fit (sink : Sink) (count : Nat) : Nat :=
  match sink.room with
  | none => count
  | some room => min count room

/-- Stores what fits, and fails if something does not. -/
def write (sink : Sink) (bytes : Bytes) : Sink × Option IoError :=
  let fit := sink.fit bytes.length
  ({ sink with
      history := .stored (bytes.take fit) :: sink.history
      room := sink.room.map (· - fit) },
    if fit < bytes.length then some sink.writeError else none)

def writeText (sink : Sink) (text : String) : Sink × Option IoError :=
  sink.write (Text.utf8 text)

/-- Hands the texts over one by one and stops at the first that fails. -/
def writeTexts (sink : Sink) : List String → Sink × Option IoError
  | [] => (sink, none)
  | text :: rest =>
    match sink.writeText text with
    | (sink, none) => sink.writeTexts rest
    | (sink, some fault) => (sink, some fault)

def flush (sink : Sink) : Sink × Option IoError :=
  ({ sink with history := .flushed :: sink.history, flushesOk := sink.flushesOk - 1 },
    if sink.flushesOk = 0 then sink.flushError else none)

theorem fit_le (sink : Sink) (count : Nat) : sink.fit count ≤ count := by
  unfold fit
  split <;> omega

theorem stored_write (sink : Sink) (bytes : Bytes) :
    (sink.write bytes).1.stored = sink.stored ++ bytes.take (sink.fit bytes.length) := by
  simp [write, stored, SinkAct.bytes]

theorem write_eq_none_iff (sink : Sink) (bytes : Bytes) :
    (sink.write bytes).2 = none ↔ sink.fit bytes.length = bytes.length := by
  have := sink.fit_le bytes.length
  simp only [write, ite_eq_right_iff, reduceCtorEq, imp_false]
  omega

@[simp] theorem stored_flush (sink : Sink) : sink.flush.1.stored = sink.stored := by
  simp [flush, stored, SinkAct.bytes]

@[simp] theorem flushes_flush (sink : Sink) : sink.flush.1.flushes = sink.flushes + 1 := by
  simp [flush, flushes]

@[simp] theorem flushes_write (sink : Sink) (bytes : Bytes) :
    (sink.write bytes).1.flushes = sink.flushes := by
  simp [write, flushes]

end Sink

end ArtifactGroups
