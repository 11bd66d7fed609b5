import ArtifactGroups.Proofs.Scan.Lockstep
import ArtifactGroups.Proofs.Scan.Outcome

/-! Diagnostics never change what a scan finds. A diagnostic stream that fails can only end the
scan early, with its own failure as the result. -/
namespace ArtifactGroups.Scan

/-- The second run came to the same as the first, but for what it said. -/
structure Run.SameFindings (first second : Run) : Prop where
  result : second.result = first.result
  fetched : second.fetched = first.fetched
  /-- The output went through the same writes and flushes. -/
  out : second.out = first.out

/-- The second run gave up where the first went on, because of a fault of `diag`. -/
structure Run.CutShort (diag : Sink) (first second : Run) : Prop where
  result : ∃ fault, diag.MayFail fault ∧ second.result = .error (.io fault)
  fetched : second.fetched ≤ first.fetched
  stored : second.out.stored <+: first.out.stored

theorem Run.CutShort.unreliable {diag : Sink} {first second : Run}
    (cut : first.CutShort diag second) : ¬diag.Reliable := by
  obtain ⟨fault, fails, -⟩ := cut.result
  exact fun reliable => Sink.reliable_iff.1 reliable fault fails

variable {diag : Sink} {source source' : Source} {options options' : Options}

/-- What is said at the end can only replace the report by a failure to say it. -/
theorem completed_spec (source : Source) (options : Options) (level : Level) (state : State) :
    (state.completed source options level).fetched = state.fetched ∧
      (state.completed source options level).out = state.out ∧
      ((state.completed source options level).result = .ok (state.report source.total) ∨
        ∃ fault, state.diag.MayFail fault ∧
          (state.completed source options level).result = .error (.io fault)) := by
  have finishing := Walk.aside_finish options level completionText fun _ =>
    finishedEvent source.location source.total state.scanned state.matched
  simp only [State.completed, State.report]
  obtain ⟨last, -, done | ⟨fault, fails, failed⟩⟩ := finishing state
  · rw [done]
    exact ⟨rfl, rfl, .inl rfl⟩
  · rw [failed]
    exact ⟨rfl, rfl, .inr ⟨fault, fails, rfl⟩⟩

theorem completed_follows (level level' : Level) (total : source.total = source'.total)
    {first second : State} (paired : Paired diag first second) :
    (first.completed source options level).SameFindings
        (second.completed source' options' level') ∨
      (first.completed source options level).CutShort diag
        (second.completed source' options' level') := by
  obtain ⟨fetched, out, ended⟩ := completed_spec source options level first
  obtain ⟨fetched', out', ended'⟩ := completed_spec source' options' level' second
  have sameFetched := fetched'.trans (paired.fetched.trans fetched.symm)
  have sameOut := out'.trans (paired.out.trans out.symm)
  rcases ended with result | ⟨fault, fails, -⟩
  · rcases ended' with result' | ⟨fault, fails, failed⟩
    · refine .inl ⟨?_, sameFetched, sameOut⟩
      simp only [result, result', State.report, total, paired.scanned, paired.matched]
    · refine .inr ⟨⟨fault, paired.faults fault fails, failed⟩, Nat.le_of_eq sameFetched, ?_⟩
      exact sameOut ▸ List.prefix_refl _
  · exact absurd fails (Sink.reliable_iff.1 paired.reliable fault)

theorem Paired.withOut {first second : State} (paired : Paired diag first second) (out : Sink) :
    Paired diag { first with out } { second with out } :=
  ⟨paired.fetched, paired.scanned, paired.matched, rfl, paired.reliable, paired.faults⟩

theorem closed_follows (level level' : Level) (total : source.total = source'.total)
    {first second : State} (paired : Paired diag first second) :
    (first.closed source.total level).SameFindings (second.closed source'.total level') := by
  refine ⟨?_, paired.fetched, paired.out⟩
  simp only [State.closed, State.ended, State.report, total, paired.scanned, paired.matched]

theorem settled_follows (level level' : Level) (total : source.total = source'.total)
    (outputGone : Bool) {first second : State} (paired : Paired diag first second) :
    (first.settled source options level outputGone).SameFindings
        (second.settled source' options' level' outputGone) ∨
      (first.settled source options level outputGone).CutShort diag
        (second.settled source' options' level' outputGone) := by
  unfold State.settled
  rw [paired.out]
  rcases first.out.flush with ⟨out, _ | fault⟩
  · cases outputGone with
    | true => exact .inl (closed_follows level level' total (paired.withOut out))
    | false => exact completed_follows level level' total (paired.withOut out)
  · simp only
    split
    next => exact .inl (closed_follows level level' total (paired.withOut out))
    next => exact .inl ⟨rfl, paired.fetched, rfl⟩

theorem conclude_fetched_out (source : Source) (options : Options) (level : Level)
    (walked : EStateM.Result Stop State Unit) :
    (conclude source options level walked).fetched = (Walk.lastState walked).fetched ∧
      (conclude source options level walked).out = (Walk.lastState walked).out.flush.1 := by
  have settled (state : State) (outputGone : Bool) :
      (state.settled source options level outputGone).fetched = state.fetched ∧
        (state.settled source options level outputGone).out = state.out.flush.1 := by
    unfold State.settled
    rcases state.out.flush with ⟨out, _ | fault⟩
    · cases outputGone with
      | true => exact ⟨rfl, rfl⟩
      | false =>
        obtain ⟨fetched, kept, -⟩ := completed_spec source options level { state with out }
        exact ⟨fetched, kept⟩
    · simp only
      split <;> exact ⟨rfl, rfl⟩
  match walked with
  | .ok _ state => exact settled state false
  | .error .outputGone state => exact settled state true
  | .error (.failed error) state => exact ⟨rfl, rfl⟩

theorem conclude_follows (level level' : Level) (total : source.total = source'.total)
    {first second : EStateM.Result Stop State Unit} (inStep : InStep diag first second) :
    (conclude source options level first).SameFindings (conclude source' options' level' second) ∨
      (conclude source options level first).CutShort diag
        (conclude source' options' level' second) := by
  cases inStep with
  | passed paired => exact settled_follows level level' total false paired
  | @stopped stop first second paired =>
    cases stop with
    | outputGone => exact settled_follows level level' total true paired
    | failed error =>
      refine .inl ⟨rfl, paired.fetched, ?_⟩
      simp only [conclude, State.ended, paired.out]
  | disturbed fails behind =>
    obtain ⟨fetched, out⟩ := conclude_fetched_out source options level first
    refine .inr ⟨⟨_, fails, rfl⟩, ?_, ?_⟩
    · rw [fetched]
      exact behind.fetched
    · rw [out, Sink.stored_flush]
      simpa only [conclude, State.ended, Sink.stored_flush] using behind.stored

/-- Two scans that meet the same matches and the same failures at every ordinal come to the same,
unless the diagnostic stream of the second fails. -/
theorem run_follows (out diag : Sink) (level level' : Level) (valid : 0 < options.markEvery)
    (valid' : 0 < options'.markEvery) (total : source.total = source'.total)
    (same : ∀ ordinal < source.total, SameAt source options source' options' ordinal)
    {heard : Sink} (reliable : heard.Reliable) :
    (run source options out heard level).SameFindings (run source' options' out diag level') ∨
      (run source options out heard level).CutShort diag
        (run source' options' out diag level') := by
  have accepted : options.ensureValid = .ok () := if_neg (by omega)
  have accepted' : options'.ensureValid = .ok () := if_neg (by omega)
  have announced := (Walk.aside_announce options (totalText source.total)).lockstep
    (Walk.aside_announce options' (totalText source'.total)) _ _
    (Paired.start out diag reliable)
  have grows := Walk.grows_visitAll source options level 0 source.total
  simp only [run, accepted, accepted']
  obtain ⟨still, -, said⟩ :=
    (Walk.aside_announce options (totalText source.total)).silent { out, diag := heard } reliable
  rw [said] at announced ⊢
  generalize Walk.announce options' (totalText source'.total) { out, diag } = ended at announced ⊢
  cases announced with
  | passed paired =>
    have walked : Walk.Lockstep diag (Walk.visitAll source options level 0 source.total)
        (Walk.visitAll source' options' level' 0 source.total) :=
      Walk.lockstep_visitAll level level' fun i _ below => same i (by omega)
    rw [← total]
    exact conclude_follows level level' total (walked _ _ paired)
  | disturbed fails behind =>
    -- The second run ends before its walk, and its output is not even flushed.
    obtain ⟨fetched, written⟩ := conclude_fetched_out source options level
      (Walk.visitAll source options level 0 source.total { out, diag := still })
    have further := behind.trans (grows { out, diag := still })
    refine .inr ⟨⟨_, fails, rfl⟩, ?_, ?_⟩
    · simp only [fetched]
      exact further.fetched
    · simp only [written, Sink.stored_flush]
      exact further.stored

/-- Two scans for the same matches find the same, whatever is reported on the way, as long as
their diagnostic streams are reliable. If only the first one's is, the other may be cut short by
its own. -/
theorem run_diagnostics (source : Source) (options options' : Options) (out heard diag : Sink)
    (level level' : Level) (valid : 0 < options.markEvery) (valid' : 0 < options'.markEvery)
    (fields : options.fields = options'.fields) (allowed : options.allowed = options'.allowed)
    (reliable : heard.Reliable) :
    let first := run source options out heard level
    let second := run source options' out diag level'
    (diag.Reliable → first.SameFindings second) ∧
      (first.SameFindings second ∨ first.CutShort diag second) := by
  intro first second
  have same (ordinal : Nat) (_ : ordinal < source.total) :
      SameAt source options source options' ordinal := by
    have match_eq : options.match? = options'.match? := by
      funext document
      simp only [Options.match?, fields, allowed]
    rw [SameAt, match_eq]
  have follows := run_follows out diag level level' valid valid' rfl same reliable
  exact ⟨fun silent => follows.resolve_right fun cut => cut.unreliable silent, follows⟩

/-- The second progress marker cannot be flushed. The output is the beginning of what a quiet
scan writes. -/
theorem run_diagnostics_failing_marker :
    let source := Source.ofDocuments "central" releases
    let loud : Options := { markEvery := 1 }
    let quiet : Options := { quiet := true }
    let closed : Sink := { flushError := some (.stream .brokenPipe "closed"), flushesOk := 1 }
    0 < loud.markEvery ∧ 0 < quiet.markEvery ∧ ({} : Sink).Reliable ∧
      (run source quiet {} {} .warn).SameFindings (run source loud {} {} .debug) ∧
      (run source quiet {} {} .warn).CutShort closed (run source loud {} closed .debug) ∧
      (run source quiet {} {} .warn).fetched = 4 ∧
      (run source loud {} closed .debug).fetched = 3 := by
  intro source loud quiet closed
  have valid : 0 < loud.markEvery := by decide
  have valid' : 0 < quiet.markEvery := by decide
  have reliable : ({} : Sink).Reliable := ⟨rfl, rfl⟩
  have whole : (run source quiet {} {} .warn).fetched = 4 := by decide +kernel
  have part : (run source loud {} closed .debug).fetched = 3 := by decide +kernel
  have same := (run_diagnostics source quiet loud {} {} {} .warn .debug valid' valid rfl rfl
    reliable).1 reliable
  have cut := (run_diagnostics source quiet loud {} {} closed .warn .debug valid' valid rfl rfl
    reliable).2
  have differ (found : (run source quiet {} {} .warn).SameFindings
      (run source loud {} closed .debug)) : False :=
    absurd (part.symm.trans (found.fetched.trans whole) : 3 = 4) (by decide)
  exact ⟨valid, valid', reliable, same, cut.resolve_left differ, whole, part⟩

end ArtifactGroups.Scan
