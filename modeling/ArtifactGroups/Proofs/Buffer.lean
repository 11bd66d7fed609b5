import ArtifactGroups.Buffer
import ArtifactGroups.Proofs.Sink

/-! A buffer neither loses bytes nor doubles or reorders them: at any time what has reached the
stream and what still waits are all that was written, in this order. -/
namespace ArtifactGroups.Buffer

/-- All these bytes have reached the stream or wait for it. -/
structure Carries (buffer : Buffer) (bytes : Bytes) : Prop where
  bytes : buffer.stream.stored ++ buffer.waiting = bytes
  reliable : buffer.stream.Reliable

variable {buffer : Buffer} {bytes : Bytes}

theorem Carries.keep (carries : Carries buffer bytes) (piece : Bytes) :
    Carries { buffer with waiting := buffer.waiting ++ piece } (bytes ++ piece) :=
  ⟨by rw [← carries.bytes, List.append_assoc], carries.reliable⟩

/-- A piece that goes to the stream at once must not overtake what waits. -/
theorem Carries.passOn (carries : Carries buffer bytes) (nothing : buffer.waiting = [])
    (piece : Bytes) :
    Carries { buffer with stream := (buffer.stream.write piece).1 } (bytes ++ piece) := by
  have whole := carries.reliable.fits piece
  refine ⟨?_, carries.reliable.write piece⟩
  rw [← carries.bytes, Sink.stored_write, whole, List.take_length, nothing, List.append_nil,
    List.append_nil]

theorem Carries.drain (carries : Carries buffer bytes) :
    Carries buffer.drain bytes ∧ buffer.drain.waiting = [] := by
  unfold Buffer.drain
  split
  next nothing => exact ⟨carries, List.isEmpty_iff.1 nothing⟩
  next =>
    have whole := carries.reliable.fits buffer.waiting
    refine ⟨⟨?_, carries.reliable.write _⟩, rfl⟩
    rw [← carries.bytes, Sink.stored_write, whole, List.take_length, List.append_nil]

theorem Carries.write (carries : Carries buffer bytes) (piece : Bytes) :
    Carries (buffer.write piece) (bytes ++ piece) := by
  unfold Buffer.write
  by_cases full : buffer.capacity < buffer.waiting.length + piece.length
  · obtain ⟨drained, empty⟩ := carries.drain
    rw [if_pos full]
    dsimp only
    split
    next => exact drained.keep piece
    next => exact drained.passOn empty piece
  · rw [if_neg full]
    dsimp only
    split
    next => exact carries.keep piece
    next large =>
      have empty : buffer.waiting = [] := List.eq_nil_of_length_eq_zero (by omega)
      exact carries.passOn empty piece

theorem Carries.flush (carries : Carries buffer bytes) : Carries buffer.flush bytes := by
  obtain ⟨drained, empty⟩ := carries.drain
  refine ⟨?_, drained.reliable.flush⟩
  rw [← drained.bytes, Buffer.flush, Sink.stored_flush]

theorem Carries.act (carries : Carries buffer bytes) (act : SinkAct) :
    Carries (buffer.act act) (bytes ++ act.bytes) := by
  cases act with
  | stored piece => exact carries.write piece
  | flushed =>
    rw [SinkAct.bytes, List.append_nil]
    exact carries.flush

theorem Carries.foldl (carries : Carries buffer bytes) (acts : List SinkAct) :
    Carries (acts.foldl Buffer.act buffer) (bytes ++ acts.flatMap SinkAct.bytes) := by
  induction acts generalizing buffer bytes with
  | nil => simpa using carries
  | cons act rest ih =>
    rw [List.foldl_cons, List.flatMap_cons, ← List.append_assoc]
    exact ih (carries.act act)

theorem stored_relay (acts : List SinkAct) :
    (relay acts).stored = acts.flatMap SinkAct.bytes := by
  have start : Carries {} [] := ⟨rfl, rfl, rfl⟩
  obtain ⟨drained, empty⟩ := (start.foldl acts).drain
  have all := drained.bytes
  rwa [empty, List.append_nil] at all

end ArtifactGroups.Buffer
