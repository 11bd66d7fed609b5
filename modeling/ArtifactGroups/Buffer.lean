import ArtifactGroups.Sink

/-! A buffer in front of a stream that takes all that it is given. Small writes wait in it until
there is no room for the next one, or until a flush; it is emptied when the program that writes
to it ends, whether it ends well or not. -/
namespace ArtifactGroups

structure Buffer where
  capacity : Nat := 8192
  waiting : Bytes := []
  stream : Sink := {}

namespace Buffer

def drain (buffer : Buffer) : Buffer :=
  if buffer.waiting.isEmpty then buffer
  else { buffer with waiting := [], stream := (buffer.stream.write buffer.waiting).1 }

/-- Makes room first, if there is not enough. A piece that is too large for the empty buffer goes
to the stream at once. -/
def write (buffer : Buffer) (piece : Bytes) : Buffer :=
  let buffer :=
    if buffer.capacity < buffer.waiting.length + piece.length then buffer.drain else buffer
  if piece.length < buffer.capacity then { buffer with waiting := buffer.waiting ++ piece }
  else { buffer with stream := (buffer.stream.write piece).1 }

def flush (buffer : Buffer) : Buffer :=
  let buffer := buffer.drain
  { buffer with stream := buffer.stream.flush.1 }

def act (buffer : Buffer) : SinkAct → Buffer
  | .stored piece => buffer.write piece
  | .flushed => buffer.flush

/-- What a new stream gets from a program that does these things to a buffer in front of it. -/
def relay (acts : List SinkAct) : Sink := (acts.foldl act {}).drain.stream

end Buffer

end ArtifactGroups
