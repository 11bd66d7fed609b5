import ArtifactGroups.Sink

/-! What writes leave in a sink of bounded room. `Grown` is the relation between a sink and
what became of it through writes alone; it determines the stored bytes, the remaining room and
the answer of the next flush, and says that no flush came in between. -/
namespace ArtifactGroups.Sink

/-- There is room for all of these bytes. -/
def Fits (sink : Sink) (bytes : Bytes) : Prop := sink.fit bytes.length = bytes.length

instance (sink : Sink) (bytes : Bytes) : Decidable (sink.Fits bytes) :=
  inferInstanceAs (Decidable (_ = _))

/-- The part of the bytes that there is room for. -/
def kept (sink : Sink) (bytes : Bytes) : Bytes :=
  match sink.room with
  | none => bytes
  | some room => bytes.take room

/-- No write and no flush ever fails. -/
def Reliable (sink : Sink) : Prop := sink.room = none ∧ sink.flushError = none

/-- The bytes were added to `start` by writes, and nothing else was done to it. -/
structure Grown (start : Sink) (bytes : Bytes) (sink : Sink) : Prop where
  history : ∃ pieces : List Bytes,
    sink.history = pieces.map .stored ++ start.history ∧ pieces.reverse.flatten = bytes
  room : sink.room = start.room.map (· - bytes.length)
  writeError : sink.writeError = start.writeError
  flushError : sink.flushError = start.flushError
  flushesOk : sink.flushesOk = start.flushesOk

theorem fits_iff {sink : Sink} {bytes : Bytes} :
    sink.Fits bytes ↔ ∀ room, sink.room = some room → bytes.length ≤ room := by
  unfold Fits fit
  cases sink.room with
  | none => simp
  | some room =>
    simp only [Option.some.injEq, forall_eq']
    omega

theorem take_fit (sink : Sink) (bytes : Bytes) :
    bytes.take (sink.fit bytes.length) = sink.kept bytes := by
  unfold fit kept
  cases sink.room with
  | none => simp
  | some room =>
    change bytes.take (min bytes.length room) = bytes.take room
    rw [Nat.min_comm, ← List.take_eq_take_min]

theorem kept_of_fits {sink : Sink} {bytes : Bytes} (fits : sink.Fits bytes) :
    sink.kept bytes = bytes := by
  rw [← take_fit, fits, List.take_length]

theorem kept_append_of_not_fits {sink : Sink} {bytes : Bytes} (full : ¬sink.Fits bytes)
    (more : Bytes) : sink.kept (bytes ++ more) = sink.kept bytes := by
  rw [fits_iff] at full
  unfold kept
  cases h : sink.room with
  | none => simp [h] at full
  | some room =>
    have short : room ≤ bytes.length := by
      simp only [h, Option.some.injEq, forall_eq'] at full
      omega
    exact List.take_append_of_le_length short

theorem Fits.left {sink : Sink} {bytes more : Bytes} (fits : sink.Fits (bytes ++ more)) :
    sink.Fits bytes := by
  rw [fits_iff] at fits ⊢
  intro room h
  have := fits room h
  rw [List.length_append] at this
  omega

@[simp] theorem fits_nil (sink : Sink) : sink.Fits [] := fits_iff.2 fun _ _ => Nat.zero_le _

theorem Grown.refl (sink : Sink) : Grown sink [] sink := by
  refine ⟨⟨[], by simp, rfl⟩, ?_, rfl, rfl, rfl⟩
  cases sink.room <;> simp

theorem Grown.trans {start middle sink : Sink} {bytes more : Bytes}
    (first : Grown start bytes middle) (second : Grown middle more sink) :
    Grown start (bytes ++ more) sink := by
  obtain ⟨before, history, rfl⟩ := first.history
  obtain ⟨after, grown, rfl⟩ := second.history
  refine ⟨⟨after ++ before, ?_, ?_⟩, ?_, second.writeError.trans first.writeError,
    second.flushError.trans first.flushError, second.flushesOk.trans first.flushesOk⟩
  · rw [grown, history, List.map_append, List.append_assoc]
  · rw [List.reverse_append, List.flatten_append]
  · rw [second.room, first.room, Option.map_map, List.length_append]
    congr 1
    funext room
    simp only [Function.comp]
    omega

theorem Grown.stored_eq {start sink : Sink} {bytes : Bytes} (grown : Grown start bytes sink) :
    sink.stored = start.stored ++ bytes := by
  obtain ⟨pieces, history, rfl⟩ := grown.history
  have each :
      (pieces.reverse.map SinkAct.stored).flatMap SinkAct.bytes = pieces.reverse.flatten := by
    rw [List.flatMap_map]
    exact List.flatMap_id
  rw [stored, stored, history, List.reverse_append, List.flatMap_append, ← List.map_reverse, each]

theorem Grown.flushes_eq {start sink : Sink} {bytes : Bytes} (grown : Grown start bytes sink) :
    sink.flushes = start.flushes := by
  obtain ⟨pieces, history, -⟩ := grown.history
  have none : SinkAct.flushed ∉ pieces.map SinkAct.stored := by simp
  rw [flushes, history, List.count_append, List.count_eq_zero.2 none, Nat.zero_add, flushes]

theorem Grown.flush_fault {start sink : Sink} {bytes : Bytes} (grown : Grown start bytes sink) :
    sink.flush.2 = start.flush.2 := by
  simp only [flush, grown.flushError, grown.flushesOk]

theorem Grown.fits_iff {start sink : Sink} {bytes : Bytes} (grown : Grown start bytes sink)
    (fits : start.Fits bytes) (more : Bytes) : sink.Fits more ↔ start.Fits (bytes ++ more) := by
  have room := grown.room
  rw [Sink.fits_iff] at fits
  rw [Sink.fits_iff, Sink.fits_iff, List.length_append, room]
  cases h : start.room with
  | none => simp
  | some bound =>
    have := fits bound h
    simp only [Option.map_some, Option.some.injEq, forall_eq']
    omega

theorem Grown.append_kept {start sink : Sink} {bytes : Bytes} (grown : Grown start bytes sink)
    (fits : start.Fits bytes) (more : Bytes) :
    bytes ++ sink.kept more = start.kept (bytes ++ more) := by
  have room := grown.room
  rw [Sink.fits_iff] at fits
  unfold kept
  rw [room]
  cases h : start.room with
  | none => simp
  | some bound =>
    have := fits bound h
    simp [List.take_append, List.take_of_length_le this]

theorem grown_write (sink : Sink) (bytes : Bytes) :
    Grown sink (sink.kept bytes) (sink.write bytes).1 := by
  refine ⟨⟨[sink.kept bytes], ?_, by simp⟩, ?_, rfl, rfl, rfl⟩
  · simp [write, take_fit]
  · have length : (sink.kept bytes).length = sink.fit bytes.length := by
      rw [← take_fit, List.length_take, Nat.min_eq_left (sink.fit_le _)]
    rw [length]
    rfl

theorem write_fault (sink : Sink) (bytes : Bytes) :
    (sink.write bytes).2 = if sink.Fits bytes then none else some sink.writeError := by
  split
  next fits => exact (sink.write_eq_none_iff bytes).2 fits
  next full =>
    have := sink.fit_le bytes.length
    exact if_pos (Nat.lt_of_le_of_ne this full)

theorem write_cases (sink : Sink) (bytes : Bytes) :
    (∃ after, sink.write bytes = (after, none) ∧ sink.Fits bytes ∧ Grown sink bytes after) ∨
      ∃ after, sink.write bytes = (after, some sink.writeError) ∧ ¬sink.Fits bytes ∧
        Grown sink (sink.kept bytes) after := by
  have grown := sink.grown_write bytes
  have fault := sink.write_fault bytes
  by_cases fits : sink.Fits bytes
  · rw [if_pos fits] at fault
    rw [kept_of_fits fits] at grown
    exact .inl ⟨_, Prod.ext rfl fault, fits, grown⟩
  · rw [if_neg fits] at fault
    exact .inr ⟨_, Prod.ext rfl fault, fits, grown⟩

theorem Grown.write_cases {start sink : Sink} {bytes : Bytes} (grown : Grown start bytes sink)
    (fits : start.Fits bytes) (more : Bytes) :
    (∃ after, sink.write more = (after, none) ∧ start.Fits (bytes ++ more) ∧
        Grown start (bytes ++ more) after) ∨
      ∃ after, sink.write more = (after, some start.writeError) ∧ ¬start.Fits (bytes ++ more) ∧
        Grown start (start.kept (bytes ++ more)) after := by
  rw [← grown.fits_iff fits, ← grown.append_kept fits, ← grown.writeError]
  rcases sink.write_cases more with ⟨after, written, room, later⟩ | ⟨after, written, full, later⟩
  · exact .inl ⟨after, written, room, grown.trans later⟩
  · exact .inr ⟨after, written, full, grown.trans later⟩

/-- A text that is handed over in pieces leaves the same bytes, and fails in the same case, as
one that is written at once. -/
theorem writeTexts_spec (sink : Sink) (texts : List String) :
    Grown sink (sink.kept (texts.flatMap Text.utf8)) (sink.writeTexts texts).1 ∧
      (sink.writeTexts texts).2 =
        if sink.Fits (texts.flatMap Text.utf8) then none else some sink.writeError := by
  induction texts generalizing sink with
  | nil => exact ⟨by simpa [kept_of_fits, writeTexts] using Grown.refl sink, by simp [writeTexts]⟩
  | cons text rest ih =>
    rw [List.flatMap_cons, writeTexts, writeText]
    rcases sink.write_cases (Text.utf8 text) with
      ⟨after, written, fits, grown⟩ | ⟨after, written, full, grown⟩
    · obtain ⟨later, outcome⟩ := ih after
      rw [written, ← grown.append_kept fits]
      refine ⟨grown.trans later, ?_⟩
      simp only [outcome, grown.fits_iff fits, grown.writeError]
    · rw [written, kept_append_of_not_fits full, if_neg (mt Fits.left full)]
      exact ⟨grown, rfl⟩

namespace Reliable

variable {sink : Sink}

theorem fits (reliable : sink.Reliable) (bytes : Bytes) : sink.Fits bytes := by
  rw [fits_iff]
  intro room h
  rw [reliable.1] at h
  contradiction

theorem write_none (reliable : sink.Reliable) (bytes : Bytes) : (sink.write bytes).2 = none := by
  rw [write_fault, if_pos (reliable.fits bytes)]

theorem write (reliable : sink.Reliable) (bytes : Bytes) : (sink.write bytes).1.Reliable := by
  simp [Reliable, Sink.write, reliable.1, reliable.2]

theorem flush_none (reliable : sink.Reliable) : sink.flush.2 = none := by
  simp [Sink.flush, reliable.2]

theorem flush (reliable : sink.Reliable) : sink.flush.1.Reliable := reliable

end Reliable

/-- What some write or some flush of the sink can fail with. -/
def MayFail (sink : Sink) (fault : IoError) : Prop :=
  sink.room ≠ none ∧ fault = sink.writeError ∨ sink.flushError = some fault

instance (sink : Sink) (fault : IoError) : Decidable (sink.MayFail fault) :=
  inferInstanceAs (Decidable (_ ∨ _))

theorem reliable_iff {sink : Sink} : sink.Reliable ↔ ∀ fault, ¬sink.MayFail fault := by
  constructor
  · rintro ⟨room, error⟩ fault (⟨bounded, -⟩ | failing)
    · exact bounded room
    · rw [error] at failing
      contradiction
  · intro never
    constructor
    · false_or_by_contra
      rename_i bounded
      exact never sink.writeError (.inl ⟨bounded, rfl⟩)
    · cases error : sink.flushError with
      | none => rfl
      | some fault => exact absurd (.inr error) (never fault)

@[simp] theorem mayFail_write (sink : Sink) (bytes : Bytes) (fault : IoError) :
    (sink.write bytes).1.MayFail fault ↔ sink.MayFail fault := by
  simp [MayFail, write]

@[simp] theorem mayFail_flush (sink : Sink) (fault : IoError) :
    sink.flush.1.MayFail fault ↔ sink.MayFail fault := Iff.rfl

theorem mayFail_of_write {sink : Sink} {bytes : Bytes} {fault : IoError}
    (failed : (sink.write bytes).2 = some fault) : sink.MayFail fault := by
  rw [write_fault] at failed
  split at failed
  next => contradiction
  next full =>
    refine .inl ⟨fun unbounded => full ?_, (Option.some.inj failed).symm⟩
    rw [fits_iff]
    intro room bounded
    rw [unbounded] at bounded
    contradiction

theorem mayFail_of_flush {sink : Sink} {fault : IoError} (failed : sink.flush.2 = some fault) :
    sink.MayFail fault := by
  simp only [flush] at failed
  split at failed
  next => exact .inr failed
  next => contradiction

end ArtifactGroups.Sink
