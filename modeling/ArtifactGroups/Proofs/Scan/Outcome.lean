import ArtifactGroups.Proofs.Scan.Progress

/-! What a scan comes to when its diagnostic stream is reliable: what it leaves in the output,
when it flushes, and which of several failures it reports. `run_spec` has all of it. -/
namespace ArtifactGroups.Scan

/-- The result of a scan that has these counters when it flushes its output. -/
def afterFlush (out : Sink) (report : Report) : Except Error Report :=
  match out.flush.2 with
  | some fault => if fault.isBrokenPipe then .ok report else .error (.io fault)
  | none => .ok report

variable {options : Options} {out diag : Sink}

theorem afterFlush_ok {report final : Report} (ok : afterFlush out report = .ok final) :
    final = report := by
  unfold afterFlush at ok
  split at ok
  next =>
    split at ok
    next => exact (Except.ok.inj ok).symm
    next => contradiction
  next => exact (Except.ok.inj ok).symm

theorem afterFlush_grown {sink : Sink} {bytes : Bytes} (grown : Sink.Grown out bytes sink)
    (report : Report) : afterFlush sink report = afterFlush out report := by
  rw [afterFlush, grown.flush_fault, afterFlush]

theorem settled_spec (source : Source) (options : Options) (level : Level) {state : State}
    (outputGone : Bool) (reliable : state.diag.Reliable) :
    (state.settled source options level outputGone).out = state.out.flush.1 ∧
      (state.settled source options level outputGone).result =
        afterFlush state.out (state.report source.total) ∧
      (state.settled source options level outputGone).diag.Reliable := by
  unfold State.settled afterFlush
  rcases flushed : state.out.flush with ⟨sink, fault⟩
  cases fault with
  | some fault =>
    simp only
    split
    next => exact ⟨rfl, rfl, reliable.note level _⟩
    next => exact ⟨rfl, rfl, reliable⟩
  | none =>
    cases outputGone with
    | true => exact ⟨rfl, rfl, reliable.note level _⟩
    | false =>
      have finishing := (Walk.aside_finish options level completionText fun _ =>
        finishedEvent source.location source.total state.scanned state.matched).silent
      obtain ⟨last, still, finished⟩ := finishing { state with out := sink } reliable
      simp only [Bool.false_eq_true, if_false, State.completed, State.report]
      rw [finished]
      exact ⟨rfl, rfl, still⟩

/-- Only a walk that got through, or lost the reader of its output, is judged by the flush. -/
def verdict (source : Source) (options : Options) (out : Sink) : Except Error Report :=
  match firstTrouble? source options out with
  | some (_, .unreadable error) => .error error
  | some (ordinal, .unwritable) =>
    if out.writeError.isBrokenPipe then
      afterFlush out ⟨source.total, ordinal + 1, (matchesBelow source options ordinal).length⟩
    else .error (.io out.writeError)
  | none =>
    afterFlush out
      ⟨source.total, source.total, (matchesBelow source options source.total).length⟩

theorem verdict_ok {source : Source} {report : Report}
    (ok : verdict source options out = .ok report) :
    report.total = source.total ∧ report.matched ≤ report.scanned ∧
      report.scanned ≤ report.total := by
  unfold verdict at ok
  split at ok
  next => contradiction
  next ordinal first =>
    split at ok
    next =>
      obtain rfl := afterFlush_ok ok
      have below := (firstTrouble?_eq_some first).1
      have count := length_matchesBelow_le source options ordinal
      exact ⟨rfl, Nat.le_succ_of_le count, below⟩
    next => contradiction
  next =>
    obtain rfl := afterFlush_ok ok
    exact ⟨rfl, length_matchesBelow_le .., Nat.le_refl _⟩

/-- A scan with valid options: the output takes all lines of the readable documents that it has
room for and then one flush, and the result is the verdict. -/
theorem run_spec (source : Source) (out : Sink) (level : Level)
    (valid : 0 < options.markEvery) (reliable : diag.Reliable) :
    (∃ before,
      Sink.Grown out (out.kept (linesBelow source options source.firstUnreadable)) before ∧
        (run source options out diag level).out = before.flush.1) ∧
      (run source options out diag level).result = verdict source options out := by
  have accepted : options.ensureValid = .ok () := if_neg (by omega)
  obtain ⟨heard, still, said⟩ :=
    (Walk.aside_announce options (totalText source.total)).silent { out, diag } reliable
  have walked := visitAll_spec level source.total (start_progress source options out still)
  have ran : run source options out diag level = conclude source options level
      (Walk.visitAll source options level 0 source.total { out, diag := heard }) := by
    simp only [run, accepted, said]
  have same := firstTrouble?_eq_from source options out
  rw [ran, verdict, same]
  cases first : firstTroubleFrom? source options out 0 source.total with
  | none =>
    simp only [first, Nat.zero_add] at walked ⊢
    obtain ⟨last, done, progress⟩ := walked
    have passed := firstTrouble?_eq_none (same.trans first)
    have readable : source.Readable := fun ordinal below => (passed ordinal below).1
    obtain ⟨flushed, result, -⟩ := settled_spec source options level false progress.diag
    rw [done, readable.firstUnreadable_eq, Sink.kept_of_fits progress.fits]
    refine ⟨⟨last.out, progress.grown, flushed⟩, result.trans ?_⟩
    rw [afterFlush_grown progress.grown, State.report, progress.scanned, progress.matched]
  | some met =>
    obtain ⟨ordinal, trouble⟩ := met
    simp only [first] at walked ⊢
    obtain ⟨last, failed, halted⟩ := walked
    have grown := halted.grown
    rw [kept_of_firstTrouble? (same.trans first)] at grown
    rw [failed]
    cases trouble with
    | unreadable error => exact ⟨⟨last.out, grown, rfl⟩, rfl⟩
    | unwritable =>
      simp only [Trouble.stop]
      split
      next pipe =>
        obtain ⟨flushed, result, -⟩ := settled_spec source options level true halted.diag
        refine ⟨⟨last.out, grown, flushed⟩, result.trans ?_⟩
        rw [afterFlush_grown halted.grown, State.report, halted.scanned, halted.matched]
        rfl
      next => exact ⟨⟨last.out, grown, rfl⟩, rfl⟩

theorem reliable_run (source : Source) (options : Options) (out : Sink) (level : Level)
    (reliable : diag.Reliable) : (run source options out diag level).diag.Reliable := by
  unfold run
  cases options.ensureValid with
  | error error => exact reliable
  | ok =>
    obtain ⟨heard, still, said⟩ :=
      (Walk.aside_announce options (totalText source.total)).silent { out, diag } reliable
    have walked := visitAll_spec level source.total (start_progress source options out still)
    simp only [said]
    split at walked
    next =>
      obtain ⟨last, done, progress⟩ := walked
      rw [done]
      exact (settled_spec source options level false progress.diag).2.2
    next ordinal trouble _ =>
      obtain ⟨last, failed, halted⟩ := walked
      rw [failed]
      cases trouble.stop out with
      | outputGone => exact (settled_spec source options level true halted.diag).2.2
      | failed error => exact halted.diag

theorem run_reliable (source : Source) (options : Options) (out diag : Sink) (level : Level)
    (readable : source.Readable) (valid : 0 < options.markEvery) (outReliable : out.Reliable)
    (diagReliable : diag.Reliable) :
    (run source options out diag level).out.stored =
        out.stored ++ linesBelow source options source.total ∧
      (run source options out diag level).result = .ok
        ⟨source.total, source.total, (matchesBelow source options source.total).length⟩ := by
  obtain ⟨⟨before, grown, flushed⟩, result⟩ := run_spec source out level valid diagReliable
  have smooth : firstTrouble? source options out = none := by
    rw [firstTrouble?, List.findSome?_eq_none_iff]
    intro ordinal member
    obtain ⟨document, fetched⟩ := readable ordinal (List.mem_range.1 member)
    rw [troubleAt?, fetched]
    simp only [outReliable.fits, if_true, Option.map_none]
  rw [readable.firstUnreadable_eq, Sink.kept_of_fits (outReliable.fits _)] at grown
  refine ⟨?_, ?_⟩
  · rw [flushed, Sink.stored_flush, grown.stored_eq]
  · rw [result, verdict, smooth]
    simp only [afterFlush, outReliable.flush_none]

/-- After any scan the output holds a first part of the lines of the readable documents: all
that there was room for. -/
theorem stored_run (source : Source) (options : Options) (out diag : Sink) (level : Level)
    (valid : 0 < options.markEvery) (reliable : diag.Reliable) :
    (run source options out diag level).out.stored =
      out.stored ++ out.kept (linesBelow source options source.firstUnreadable) := by
  obtain ⟨⟨before, grown, flushed⟩, -⟩ := run_spec source out level valid reliable
  rw [flushed, Sink.stored_flush, grown.stored_eq]

/-- Some releases: in fields of their own, in a composite field, and without an allowed group. -/
def releases : List Document := [
  { fields := [⟨"g", .text "org.apache.maven"⟩, ⟨"a", .text "maven-core"⟩] },
  { fields := [⟨"u", .text "org.springframework|spring-web|5.0|NA|jar"⟩] },
  { fields := [⟨"g", .text "net.sample"⟩, ⟨"a", .text "some-tool"⟩] },
  { fields := [⟨"a", .text "maven-core"⟩, ⟨"g", .text "org.eclipse"⟩] }]

/-- A write that ends inside a line, and a document behind it that cannot be read. -/
theorem stored_run_cut_line :
    0 < ({} : Options).markEvery ∧ ({} : Sink).Reliable ∧
      (run ((Source.ofDocuments "central" releases).failingAt 3 "bad block") {}
        { room := some 35 } {} .warn).out.stored =
        Text.utf8 "org.apache.maven|maven-core\norg.spr" :=
  ⟨by decide, ⟨rfl, rfl⟩,
    (stored_run ((Source.ofDocuments "central" releases).failingAt 3 "bad block") {}
      { room := some 35 } {} .warn (by decide) ⟨rfl, rfl⟩).trans (by decide +kernel)⟩

/-- Options without an interval touch nothing. Otherwise the output is flushed once, behind all
that is written to it, and the first trouble decides: a failed fetch or a failed write is the
result whatever the flush says, and a closed pipe ends the scan like a walk that got through. -/
theorem run_outcome (source : Source) (options : Options) (out diag : Sink) (level : Level)
    (reliable : diag.Reliable) :
    (options.markEvery = 0 → run source options out diag level =
      ⟨.error (.badOptions "progress interval must be greater than zero"), 0, out, diag⟩) ∧
    (0 < options.markEvery →
      let ended := run source options out diag level
      (∃ pieces : List Bytes,
        ended.out.history = .flushed :: pieces.map .stored ++ out.history) ∧
      (∀ ordinal error, firstTrouble? source options out = some (ordinal, .unreadable error) →
        ended.result = .error error) ∧
      (∀ ordinal, firstTrouble? source options out = some (ordinal, .unwritable) →
        (out.writeError.isBrokenPipe = false → ended.result = .error (.io out.writeError)) ∧
        (out.writeError.isBrokenPipe = true → ended.result = afterFlush out
          ⟨source.total, ordinal + 1, (matchesBelow source options ordinal).length⟩)) ∧
      (firstTrouble? source options out = none → ended.result = afterFlush out
        ⟨source.total, source.total, (matchesBelow source options source.total).length⟩) ∧
      (∀ report, ended.result = .ok report → report.total = source.total ∧
        report.matched ≤ report.scanned ∧ report.scanned ≤ report.total)) := by
  refine ⟨fun invalid => ?_, fun valid => ?_⟩
  · have refused : options.ensureValid =
        .error (.badOptions "progress interval must be greater than zero") := if_pos invalid
    simp only [run, refused]
    rfl
  obtain ⟨⟨before, grown, flushed⟩, result⟩ := run_spec source out level valid reliable
  obtain ⟨pieces, history, -⟩ := grown.history
  dsimp only
  rw [result, flushed]
  refine ⟨⟨pieces, ?_⟩, ?_, ?_, ?_, fun report => verdict_ok⟩
  · rw [Sink.flush, history, List.cons_append]
  · intro ordinal error first
    rw [verdict, first]
  · intro ordinal first
    refine ⟨fun other => ?_, fun pipe => ?_⟩
    · rw [verdict, first]
      exact if_neg (by simp [other])
    · rw [verdict, first]
      exact if_pos pipe
  · intro smooth
    rw [verdict, smooth]

/-- The pipe closes in the second line and is then found closed by the flush too. -/
theorem run_outcome_closed_pipe :
    let closed : IoError := .stream .brokenPipe "closed"
    let pipe : Sink := { room := some 35, writeError := closed, flushError := some closed }
    let source := (Source.ofDocuments "central" releases).failingAt 3 "bad block"
    ({} : Sink).Reliable ∧ 0 < ({} : Options).markEvery ∧
      firstTrouble? source {} pipe = some (1, .unwritable) ∧
      (run source {} pipe {} .warn).result = .ok ⟨4, 2, 1⟩ := by
  intro closed pipe source
  have outcome := (run_outcome source {} pipe {} .warn ⟨rfl, rfl⟩).2 (by decide)
  have first : firstTrouble? source {} pipe = some (1, .unwritable) := by decide +kernel
  refine ⟨⟨rfl, rfl⟩, by decide, first, ?_⟩
  exact ((outcome.2.2.1 1 first).2 (by decide)).trans rfl

end ArtifactGroups.Scan
