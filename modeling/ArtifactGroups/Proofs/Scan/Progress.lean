import ArtifactGroups.Proofs.Scan.Aside
import ArtifactGroups.Proofs.Scan.Listing

/-! How far a walk gets. `Progress` holds before each visit of a walk that met no trouble yet;
a visit either carries it to the next ordinal or leaves the streams as `Halted` says. The
diagnostic stream is assumed to be reliable, and then nothing that is written to it matters. -/
namespace ArtifactGroups.Scan

variable {source : Source} {options : Options} {out : Sink}

/-- All ordinals below `ordinal` were visited to the end. -/
structure Progress (source : Source) (options : Options) (out : Sink) (ordinal : Nat)
    (state : State) : Prop where
  fetched : state.fetched = ordinal
  scanned : state.scanned = ordinal
  matched : state.matched = (matchesBelow source options ordinal).length
  grown : Sink.Grown out (linesBelow source options ordinal) state.out
  fits : out.Fits (linesBelow source options ordinal)
  diag : state.diag.Reliable

/-- The documents obtained when a visit of `ordinal` fails. -/
def Trouble.scanned (ordinal : Nat) : Trouble → Nat
  | .unreadable _ => ordinal
  | .unwritable => ordinal + 1

def Trouble.stop (out : Sink) : Trouble → Stop
  | .unreadable error => .failed error
  | .unwritable => if out.writeError.isBrokenPipe then .outputGone else .failed (.io out.writeError)

/-- The visit of `ordinal` was given up; what there was room for of its line is in the output. -/
structure Halted (source : Source) (options : Options) (out : Sink) (ordinal : Nat)
    (trouble : Trouble) (state : State) : Prop where
  fetched : state.fetched = ordinal + 1
  scanned : state.scanned = trouble.scanned ordinal
  matched : state.matched = (matchesBelow source options ordinal).length
  grown : Sink.Grown out (out.kept (linesBelow source options (ordinal + 1))) state.out
  diag : state.diag.Reliable

theorem start_progress (source : Source) (options : Options) (out : Sink) {diag : Sink}
    (reliable : diag.Reliable) :
    Progress source options out 0 { out, diag } where
  fetched := rfl
  scanned := rfl
  matched := rfl
  grown := Sink.Grown.refl out
  fits := out.fits_nil
  diag := reliable

theorem print_eq (coordinate : Coordinate) (state : State) :
    Walk.print coordinate state =
      if state.out.Fits (Text.utf8 (listing [coordinate])) then
        .ok () { state with
          out := (state.out.writeTexts coordinate.linePieces).1, matched := state.matched + 1 }
      else
        .error (Trouble.unwritable.stop state.out)
          { state with out := (state.out.writeTexts coordinate.linePieces).1 } := by
  have fault := (state.out.writeTexts_spec coordinate.linePieces).2
  rw [utf8_linePieces] at fault
  unfold Walk.print
  split
  next h =>
    rw [h] at fault ⊢
    split at fault
    next fits => rw [if_pos fits]
    next => contradiction
  next h =>
    rw [h] at fault ⊢
    split at fault
    next => contradiction
    next full =>
      obtain rfl := Option.some.inj fault
      rw [if_neg full]
      rfl

theorem emit_spec {ordinal : Nat} {document : Document}
    (fetch : source.fetch ordinal = .ok document) (state : State)
    (matched : state.matched = (matchesBelow source options ordinal).length)
    (grown : Sink.Grown out (linesBelow source options ordinal) state.out)
    (fits : out.Fits (linesBelow source options ordinal)) :
    if out.Fits (linesBelow source options (ordinal + 1)) then
      ∃ sink, Sink.Grown out (linesBelow source options (ordinal + 1)) sink ∧
        Walk.emit options document state = .ok () { state with
          out := sink, matched := (matchesBelow source options (ordinal + 1)).length }
    else
      ∃ sink, Sink.Grown out (out.kept (linesBelow source options (ordinal + 1))) sink ∧
        Walk.emit options document state =
          .error (Trouble.unwritable.stop out) { state with out := sink } := by
  have found : matchAt? source options ordinal = options.match? document := by
    simp [matchAt?, fetch, Except.toOption]
  rw [linesBelow_succ, matchesBelow_succ, found]
  unfold Walk.emit
  cases options.match? document with
  | none =>
    simp only [Option.toList_none, listing_nil, Text.utf8_empty, List.append_nil, if_pos fits]
    exact ⟨state.out, grown, by rw [← matched]; rfl⟩
  | some coordinate =>
    simp only [Option.toList_some, List.length_append, List.length_singleton, ← matched]
    rw [print_eq]
    have written := (state.out.writeTexts_spec coordinate.linePieces).1
    rw [utf8_linePieces] at written
    have whole := grown.trans written
    rw [grown.append_kept fits] at whole
    simp only [grown.fits_iff fits]
    split
    next more =>
      rw [Sink.kept_of_fits more] at whole
      exact ⟨_, whole, rfl⟩
    next full =>
      refine ⟨_, whole, ?_⟩
      simp only [Trouble.stop, grown.writeError]

theorem visit_spec (level : Level) {ordinal : Nat} {state : State}
    (progress : Progress source options out ordinal state) :
    match troubleAt? source options out ordinal with
    | none => ∃ next, Walk.visit source options level ordinal state = .ok () next ∧
        Progress source options out (ordinal + 1) next
    | some trouble =>
      ∃ last, Walk.visit source options level ordinal state = .error (trouble.stop out) last ∧
        Halted source options out ordinal trouble last := by
  unfold troubleAt?
  cases fetch : source.fetch ordinal with
  | error error =>
    refine ⟨{ state with fetched := state.fetched + 1 }, ?_, ?_⟩
    · simp only [Walk.visit, bind, EStateM.bind, Walk.fetch, fetch]
      rfl
    · have lines : linesBelow source options (ordinal + 1) = linesBelow source options ordinal := by
        simp [linesBelow_succ, matchAt?, fetch, Except.toOption]
      refine ⟨congrArg (· + 1) progress.fetched, progress.scanned, progress.matched, ?_,
        progress.diag⟩
      rw [lines, Sink.kept_of_fits progress.fits]
      exact progress.grown
  | ok document =>
    have fetched : Walk.fetch source ordinal state = .ok document
        { state with fetched := ordinal + 1, scanned := ordinal + 1 } := by
      simp only [Walk.fetch, fetch, progress.fetched, progress.scanned]
    obtain ⟨shown, shownReliable, dumped⟩ := (Walk.aside_dump options ordinal document).silent
      { state with fetched := ordinal + 1, scanned := ordinal + 1 } progress.diag
    have emitted := emit_spec fetch ⟨ordinal + 1, ordinal + 1, state.matched, state.out, shown⟩
      progress.matched progress.grown progress.fits
    split at emitted
    next fits =>
      obtain ⟨sink, grown, printed⟩ := emitted
      obtain ⟨marked, markedReliable, done⟩ := (Walk.aside_mark options level ordinal).silent
        ⟨ordinal + 1, ordinal + 1, (matchesBelow source options (ordinal + 1)).length, sink, shown⟩
        shownReliable
      have visited : Progress source options out (ordinal + 1) ⟨ordinal + 1, ordinal + 1,
          (matchesBelow source options (ordinal + 1)).length, sink, marked⟩ :=
        ⟨rfl, rfl, rfl, grown, fits, markedReliable⟩
      simp only [if_pos fits]
      refine ⟨_, ?_, visited⟩
      simp only [Walk.visit, bind, EStateM.bind, fetched, dumped, printed, done]
    next full =>
      obtain ⟨sink, grown, failed⟩ := emitted
      have halted : Halted source options out ordinal .unwritable
          ⟨ordinal + 1, ordinal + 1, state.matched, sink, shown⟩ :=
        ⟨rfl, rfl, progress.matched, grown, shownReliable⟩
      simp only [if_neg full]
      refine ⟨_, ?_, halted⟩
      simp only [Walk.visit, bind, EStateM.bind, fetched, dumped, failed]

/-- The trouble that is met first among `count` ordinals. -/
def firstTroubleFrom? (source : Source) (options : Options) (out : Sink) (ordinal count : Nat) :
    Option (Nat × Trouble) :=
  (List.range' ordinal count).findSome? fun ordinal =>
    (troubleAt? source options out ordinal).map (ordinal, ·)

theorem firstTrouble?_eq_from (source : Source) (options : Options) (out : Sink) :
    firstTrouble? source options out = firstTroubleFrom? source options out 0 source.total := by
  rw [firstTrouble?, List.range_eq_range', firstTroubleFrom?]

theorem firstTroubleFrom?_succ (ordinal count : Nat) :
    firstTroubleFrom? source options out ordinal (count + 1) =
      ((troubleAt? source options out ordinal).map (ordinal, ·)).or
        (firstTroubleFrom? source options out (ordinal + 1) count) := by
  rw [firstTroubleFrom?, List.range'_succ, List.findSome?_cons]
  cases troubleAt? source options out ordinal <;> rfl

/-- The whole walk: it stops at the first trouble, and else visits every ordinal. -/
theorem visitAll_spec (level : Level) (count : Nat) {ordinal : Nat} {state : State}
    (progress : Progress source options out ordinal state) :
    match firstTroubleFrom? source options out ordinal count with
    | none => ∃ last, Walk.visitAll source options level ordinal count state = .ok () last ∧
        Progress source options out (ordinal + count) last
    | some (stopped, trouble) =>
      ∃ last, Walk.visitAll source options level ordinal count state =
          .error (trouble.stop out) last ∧
        Halted source options out stopped trouble last := by
  induction count generalizing ordinal state with
  | zero => exact ⟨state, rfl, progress⟩
  | succ count ih =>
    have visited := visit_spec level progress
    rw [firstTroubleFrom?_succ]
    cases trouble : troubleAt? source options out ordinal with
    | some trouble =>
      simp only [trouble] at visited
      obtain ⟨last, failed, halted⟩ := visited
      refine ⟨last, ?_, halted⟩
      simp only [Walk.visitAll, bind, EStateM.bind, failed]
    | none =>
      simp only [trouble] at visited
      obtain ⟨next, passed, further⟩ := visited
      have rest := ih further
      simp only [Option.map_none, Option.none_or, Walk.visitAll, bind, EStateM.bind, passed]
      rwa [Nat.add_right_comm, Nat.add_assoc ordinal] at rest

end ArtifactGroups.Scan
