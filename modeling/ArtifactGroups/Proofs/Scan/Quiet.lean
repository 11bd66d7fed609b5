import ArtifactGroups.Proofs.Scan.Commute
import ArtifactGroups.Proofs.Scan.Outcome

/-! Quiet scans. None of their visits touches the diagnostic stream, which is used once at most: a
scan that gets through to the end flushes it, and answers with the fault if that flush fails. -/
namespace ArtifactGroups.Scan

variable {source : Source} {options : Options} {out : Sink}

namespace Walk

theorem announce_quiet (quiet : options.quiet = true) (text : String) :
    announce options text = pure () := if_pos quiet

theorem dump_quiet (quiet : options.quiet = true) (ordinal : Nat) (document : Document) :
    dump options ordinal document = pure () := if_neg (by simp [Options.shows, quiet])

theorem note_hidden {level : Level} {event : State → Event}
    (hidden : ∀ state, level.shows (event state).level = false) : note level event = pure () := by
  funext state
  simp only [note, Sink.note_of_hidden (hidden state)]
  rfl

theorem mark_quiet (quiet : options.quiet = true) (ordinal : Nat) :
    mark options .warn ordinal = pure () := by
  have unseen : note .warn (fun state => progressEvent ordinal state.matched) = pure () :=
    note_hidden fun _ => rfl
  rw [mark, unseen, if_pos quiet, pure_bind, ite_self]

theorem visit_quiet (quiet : options.quiet = true) (ordinal : Nat) :
    visit source options .warn ordinal = fetch source ordinal >>= emit options := by
  simp only [visit, dump_quiet quiet, mark_quiet quiet, pure_bind, bind_pure_unit]

theorem commutes_visitAll_quiet (quiet : options.quiet = true) (change : Sink → Sink)
    (ordinal count : Nat) : Commutes change (visitAll source options .warn ordinal count) := by
  induction count generalizing ordinal with
  | zero => exact commutes_pure ()
  | succ count ih =>
    rw [visitAll, visit_quiet quiet]
    exact ((commutes_fetch source ordinal).bind (commutes_emit options)).bind fun _ =>
      ih (ordinal + 1)

end Walk

/-- All documents can be fetched, all lines fit, and the output can be flushed. -/
def GetsThrough (source : Source) (options : Options) (out : Sink) : Prop :=
  firstTrouble? source options out = none ∧ out.flush.2 = none

instance : Decidable (GetsThrough source options out) := inferInstanceAs (Decidable (_ ∧ _))

/-- What becomes of a result if the diagnostic stream is flushed. -/
def afterDiagFlush (diag : Sink) (result : Except Error Report) : Except Error Report :=
  diag.flush.2.elim result fun fault => .error (.io fault)

theorem afterDiagFlush_eq_iff {diag diag' : Sink} {report : Report} :
    afterDiagFlush diag' (.ok report) = afterDiagFlush diag (.ok report) ↔
      diag'.flush.2 = diag.flush.2 := by
  unfold afterDiagFlush
  rcases diag.flush.2 with _ | fault <;> rcases diag'.flush.2 with _ | fault' <;> simp

theorem closed_warn (state : State) (total : Nat) :
    state.closed total .warn = state.ended (.ok (state.report total)) := rfl

theorem completed_quiet (source : Source) (quiet : options.quiet = true) (state : State) :
    state.completed source options .warn =
      ⟨afterDiagFlush state.diag (.ok (state.report source.total)), state.fetched, state.out,
        state.diag.flush.1⟩ := by
  simp only [State.completed, Walk.announce_quiet quiet, pure_bind]
  simp only [Bind.bind, EStateM.bind, Walk.flushDiag, afterDiagFlush]
  rcases state.diag.flush with ⟨diag, _ | fault⟩ <;> rfl

theorem settled_quiet (source : Source) (quiet : options.quiet = true) (state : State)
    (outputGone : Bool) :
    state.settled source options .warn outputGone =
      if outputGone = false ∧ state.out.flush.2 = none then
        ⟨afterDiagFlush state.diag (afterFlush state.out (state.report source.total)),
          state.fetched, state.out.flush.1, state.diag.flush.1⟩
      else
        ⟨afterFlush state.out (state.report source.total), state.fetched, state.out.flush.1,
          state.diag⟩ := by
  unfold State.settled afterFlush
  rcases state.out.flush with ⟨sink, _ | fault⟩
  · cases outputGone with
    | true => exact closed_warn { state with out := sink } source.total
    | false => exact completed_quiet source quiet { state with out := sink }
  · simp only [reduceCtorEq, and_false, if_false]
    split
    next => exact closed_warn { state with out := sink } source.total
    next => rfl

theorem run_quiet_eq (source : Source) (out diag : Sink) (valid : 0 < options.markEvery)
    (quiet : options.quiet = true) :
    run source options out diag .warn = conclude source options .warn
      (Walk.visitAll source options .warn 0 source.total { out, diag }) := by
  have accepted : options.ensureValid = .ok () := if_neg (Nat.ne_of_gt valid)
  simp only [run, accepted, Walk.announce_quiet quiet]
  rfl

/-- A quiet scan comes to the same over every diagnostic stream, up to the one flush at its end. -/
theorem run_quiet_spec (source : Source) (out : Sink) (valid : 0 < options.markEvery)
    (quiet : options.quiet = true) :
    ∃ fetched sink, ∀ diag : Sink, run source options out diag .warn =
      if GetsThrough source options out then
        ⟨afterDiagFlush diag (verdict source options out), fetched, sink, diag.flush.1⟩
      else ⟨verdict source options out, fetched, sink, diag⟩ := by
  -- One walk over a reliable stream stands for the walks over all streams.
  have reliable : ({} : Sink).Reliable := ⟨rfl, rfl⟩
  have walked := visitAll_spec .warn source.total (start_progress source options out reliable)
  have ran (diag : Sink) : run source options out diag .warn = conclude source options .warn
      (Walk.mapDiag (fun _ => diag)
        (Walk.visitAll source options .warn 0 source.total { out, diag := {} })) := by
    rw [run_quiet_eq source out diag valid quiet,
      ← Walk.commutes_visitAll_quiet quiet (fun _ => diag) 0 source.total { out, diag := {} }]
    rfl
  have same := firstTrouble?_eq_from source options out
  simp only [ran, GetsThrough, verdict, same]
  cases first : firstTroubleFrom? source options out 0 source.total with
  | none =>
    simp only [first, Nat.zero_add] at walked
    obtain ⟨last, done, progress⟩ := walked
    refine ⟨last.fetched, last.out.flush.1, fun diag => ?_⟩
    have report : (last.mapDiag fun _ => diag).report source.total =
        ⟨source.total, source.total, (matchesBelow source options source.total).length⟩ := by
      simp only [State.report, State.mapDiag, progress.scanned, progress.matched]
    rw [done]
    refine (settled_quiet source quiet (last.mapDiag fun _ => diag) false).trans ?_
    rw [report]
    simp only [State.mapDiag, progress.grown.flush_fault, afterFlush_grown progress.grown]
  | some met =>
    obtain ⟨ordinal, trouble⟩ := met
    simp only [first] at walked
    obtain ⟨last, failed, halted⟩ := walked
    refine ⟨last.fetched, last.out.flush.1, fun diag => ?_⟩
    rw [failed]
    simp only [reduceCtorEq, false_and, if_false]
    cases trouble with
    | unreadable error => rfl
    | unwritable =>
      have report : (last.mapDiag fun _ => diag).report source.total =
          ⟨source.total, ordinal + 1, (matchesBelow source options ordinal).length⟩ := by
        simp only [State.report, State.mapDiag, halted.scanned, halted.matched, Trouble.scanned]
      simp only [Trouble.stop]
      split
      next =>
        refine (settled_quiet source quiet (last.mapDiag fun _ => diag) true).trans ?_
        rw [report, if_neg fun gone => absurd gone.1 (by decide)]
        simp only [State.mapDiag, afterFlush_grown halted.grown]
      next => rfl

/-- Two quiet scans that differ in the diagnostic stream alone find the same and say nothing. They
have the same result too, unless both get through to the end, where their streams are flushed, and
the flushes come to different ends. -/
theorem run_quiet (source : Source) (options : Options) (out diag diag' : Sink)
    (valid : 0 < options.markEvery) (quiet : options.quiet = true) :
    let first := run source options out diag .warn
    let second := run source options out diag' .warn
    second.fetched = first.fetched ∧ second.out = first.out ∧
    first.diag.stored = diag.stored ∧ second.diag.stored = diag'.stored ∧
    (second.result = first.result ↔
      (GetsThrough source options out → diag'.flush.2 = diag.flush.2)) ∧
    (GetsThrough source options out → ∀ fault, diag'.flush.2 = some fault →
      second.result = .error (.io fault)) := by
  intro first second
  obtain ⟨fetched, sink, ran⟩ := run_quiet_spec source out valid quiet
  by_cases through : GetsThrough source options out
  · have result : verdict source options out = .ok
        ⟨source.total, source.total, (matchesBelow source options source.total).length⟩ := by
      rw [verdict, through.1]
      simp only [afterFlush, through.2]
    simp only [result, if_pos through] at ran
    simp only [first, second, ran]
    refine ⟨trivial, trivial, Sink.stored_flush diag, Sink.stored_flush diag', ?_, ?_⟩
    · rw [afterDiagFlush_eq_iff]
      exact ⟨fun agree _ => agree, fun agree => agree through⟩
    · intro _ fault failed
      rw [afterDiagFlush, failed, Option.elim_some]
  · simp only [if_neg through] at ran
    simp only [first, second, ran]
    exact ⟨trivial, trivial, trivial, trivial,
      ⟨fun _ gets => absurd gets through, fun _ => trivial⟩, fun gets => absurd gets through⟩

/-- A stream without room and one that cannot be flushed. Neither matters to a scan whose output
is closed on the way, and the second is the result of a scan that gets through. -/
theorem run_quiet_closed_pipe :
    let source := Source.ofDocuments "central" releases
    let options : Options := { markEvery := 1, quiet := true }
    let pipe : Sink := { room := some 35, writeError := .stream .brokenPipe "closed" }
    let full : Sink := { room := some 0 }
    let gone : Sink := { flushError := some (.stream .other "gone") }
    0 < options.markEvery ∧ options.quiet = true ∧ ¬GetsThrough source options pipe ∧
      (run source options pipe gone .warn).result = (run source options pipe full .warn).result ∧
      GetsThrough source options {} ∧ gone.flush.2 = some (.stream .other "gone") ∧
      (run source options {} gone .warn).out = (run source options {} full .warn).out ∧
      (run source options {} gone .warn).result = .error (.io (.stream .other "gone")) := by
  intro source options pipe full gone
  have valid : 0 < options.markEvery := by decide
  have stopped : ¬GetsThrough source options pipe := by decide +kernel
  have through : GetsThrough source options {} := by decide +kernel
  obtain ⟨-, -, -, -, early, -⟩ := run_quiet source options pipe full gone valid rfl
  obtain ⟨-, out, -, -, -, late⟩ := run_quiet source options {} full gone valid rfl
  exact ⟨valid, rfl, stopped, early.2 fun gets => absurd gets stopped, through, rfl, out,
    late through _ rfl⟩

/-- A quiet scan fails for a stream to which it has nothing to write. -/
theorem quiet_scan_fails_to_flush :
    let source := Source.ofDocuments "central"
      [{ fields := [⟨"g", .text "org.apache"⟩, ⟨"a", .text "x"⟩] }]
    let gone : Sink := { flushError := some (.stream .other "gone") }
    (run source { quiet := true } {} {} .warn).result = .ok ⟨1, 1, 1⟩ ∧
      (run source { quiet := true } {} gone .warn).result =
        .error (.io (.stream .other "gone")) :=
  ⟨rfl, rfl⟩

end ArtifactGroups.Scan
