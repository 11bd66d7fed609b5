import ArtifactGroups.Program.Dump
import ArtifactGroups.Proofs.Scan.Earlier

/-! The stages of dumping an index. Each stage that fails hides the later ones: it decides the
error, and what they would have touched stays as it was. The scan, when it is reached, is the scan
of the opened index over a diagnostic stream that has less room by the announcement. -/
namespace ArtifactGroups

namespace DumpRun

/-- The run failed before the output was used. The diagnostics got these bytes, and no flush. -/
structure FailedEarly (run : DumpRun) (error : Error) (out diag : Sink) (told : Bytes) :
    Prop where
  result : run.result = .error (.ofError error)
  out : run.out = out
  diag : Sink.Grown diag told run.diag

/-- The run is a scan behind the bytes that the diagnostics got before it. -/
structure Scanned (run : DumpRun) (path : String) (scan : Scan.Run) (diag : Sink)
    (told : Bytes) : Prop where
  result : run.result =
    scan.result.mapError fun error => ⟨some ("scanning " ++ path), .inl error⟩
  out : run.out = scan.out
  stored : run.diag.stored = diag.stored ++ told ++ scan.diag.stored
  flushes : run.diag.flushes = diag.flushes + scan.diag.flushes

end DumpRun

namespace Scan

def openingBytes (options : Options) (path : String) : Bytes :=
  if options.quiet then [] else Text.utf8 (openingText path)

theorem opening_cases (options : Options) (path : String) (diag : Sink) :
    let opening := if options.quiet then (diag, none) else diag.writeText (openingText path)
    let told := openingBytes options path
    (∃ after, opening = (after, none) ∧ diag.Fits told ∧ Sink.Grown diag told after) ∨
      ∃ after, opening = (after, some diag.writeError) ∧ ¬diag.Fits told ∧
        Sink.Grown diag (diag.kept told) after := by
  unfold openingBytes
  cases options.quiet with
  | true => exact .inl ⟨diag, rfl, diag.fits_nil, .refl diag⟩
  | false => exact diag.write_cases _

end Scan

/-- A scan over a stream that has grown, seen from the time before. -/
theorem DumpRun.scanned_of_grown {diag after : Sink} {told : Bytes} (path : String)
    (grown : Sink.Grown diag told after) (source : Source) (options : Scan.Options) (out : Sink)
    (level : Level) (event : Event) :
    let fresh := (diag.remaining told).note level event
    let scan := Scan.run source options out (after.note level event) level
    DumpRun.Scanned ⟨scan.result.mapError fun error => ⟨some ("scanning " ++ path), .inl error⟩,
      scan.out, scan.diag⟩ path (Scan.run source options out fresh level) diag told := by
  have used : after.note level event = .after after ((diag.remaining told).note level event) := by
    rw [← Sink.note_after, ← grown.eq_after]
  simp only [used, Scan.run_after]
  refine ⟨rfl, rfl, ?_, ?_⟩
  · simp only [Scan.Run.mapDiag, Sink.stored_after, grown.stored_eq]
  · simp only [Scan.Run.mapDiag, Sink.flushes_after, grown.flushes_eq]

/-- Invalid options are found first, and touch neither stream. Then the path is announced, unless
the run is quiet; then the index is opened, and a failure leaves the output untouched and the
announcement alone on the diagnostics. Else the run is the scan of the index, whose failures say
so, with the room on the diagnostics that the announcement leaves. (The event of the opening is
noted only if the level shows it, which the lowest does not.) -/
theorem Volume.dump_staged (volume : Volume) (path : String) (options : Scan.Options)
    (out diag : Sink) (level : Level) (library : Index.Library) :
    let run := volume.dump path options out diag level library
    let told := Scan.openingBytes options path
    if options.markEvery = 0 then
      run = ⟨.error (.ofError (.badOptions "progress interval must be greater than zero")), out,
        diag⟩
    else if ¬diag.Fits told then
      run.FailedEarly (.io diag.writeError) out diag (diag.kept told)
    else
      match volume.directory? path with
      | none => run.FailedEarly (.noIndex path) out diag told
      | some place =>
        match library.attach (volume.entryAt? (place ++ [manifestName])) with
        | .error reason => run.FailedEarly (.unreadableIndex path reason) out diag told
        | .ok searcher =>
          let snapshot : Index.Snapshot := ⟨path, searcher⟩
          let fresh := (diag.remaining told).note level snapshot.openedEvent
          run.Scanned path (Scan.run snapshot.source options out fresh level) diag told := by
  dsimp only
  by_cases invalid : options.markEvery = 0
  · rw [if_pos invalid]
    simp only [dump, Scan.Options.ensureValid, if_pos invalid]
  · have valid : options.ensureValid = .ok () := if_neg invalid
    rw [if_neg invalid]
    simp only [dump, valid]
    rcases Scan.opening_cases options path diag with
      ⟨after, opened, fits, grown⟩ | ⟨after, opened, full, grown⟩
    · rw [if_neg (not_not_intro fits), opened]
      unfold openIndex
      cases volume.directory? path with
      | none => exact ⟨rfl, rfl, grown⟩
      | some place =>
        dsimp only
        cases library.attach (volume.entryAt? (place ++ [manifestName])) with
        | error reason => exact ⟨rfl, rfl, grown⟩
        | ok searcher => exact DumpRun.scanned_of_grown path grown _ options out level _
    · rw [if_pos full, opened]
      exact ⟨rfl, rfl, grown⟩

/-- The announcement leaves three bytes on the diagnostics, too few for the first line of the scan.
Without an index the stream ends with the announcement; with less room that is cut itself. -/
theorem Volume.dump_staged_little_room :
    let manifest : Index.Manifest := { schema := .base, batches := [[[("u", .text "org.a|b")]]] }
    let volume : Volume := { entries := [
      (["home", "idx"], .directory), (["home", "idx", "meta.json"], .manifest manifest)] }
    let library : Index.Library := .observed "damaged"
    let run := volume.dump "idx" {} {} { room := some 25 } .warn library
    let fault : IoError := .stream .other "disk full"
    run.result = .error ⟨some "scanning idx", .inl (.io fault)⟩ ∧
      run.diag.stored = Text.utf8 "Opening index at: idx\nTot" ∧
      (volume.dump "none" {} {} { room := some 25 } .warn library).FailedEarly (.noIndex "none") {}
        { room := some 25 } (Text.utf8 "Opening index at: none\n") ∧
      (volume.dump "none" {} {} { room := some 21 } .warn library).FailedEarly (.io fault) {}
        { room := some 21 } (Text.utf8 "Opening index at: non") := by
  intro manifest volume library run fault
  have found : volume.directory? "idx" = some ["home", "idx"] := by decide +kernel
  have entry : volume.entryAt? (["home", "idx"] ++ [manifestName]) = some (.manifest manifest) := by
    decide +kernel
  have opens : library.attach (some (.manifest manifest)) = .ok (manifest.searcher "damaged") := rfl
  have absent : volume.directory? "none" = none := by decide +kernel
  have valid : ¬({} : Scan.Options).markEvery = 0 := by decide
  have told : ¬¬({ room := some 25 } : Sink).Fits (Scan.openingBytes {} "idx") := by
    decide +kernel
  have told' : ¬¬({ room := some 25 } : Sink).Fits (Scan.openingBytes {} "none") := by
    decide +kernel
  have full : ¬({ room := some 21 } : Sink).Fits (Scan.openingBytes {} "none") := by
    decide +kernel
  have staged := volume.dump_staged "idx" {} {} { room := some 25 } .warn library
  have missed := volume.dump_staged "none" {} {} { room := some 25 } .warn library
  have cut := volume.dump_staged "none" {} {} { room := some 21 } .warn library
  dsimp only at staged missed cut
  rw [if_neg valid, if_neg told, found] at staged
  dsimp only at staged
  rw [entry, opens] at staged
  rw [if_neg valid, if_neg told', absent] at missed
  rw [if_neg valid, if_pos full] at cut
  have kept : ({ room := some 21 } : Sink).kept (Scan.openingBytes {} "none") =
      Text.utf8 "Opening index at: non" := by decide +kernel
  refine ⟨?_, ?_, missed, kept ▸ cut⟩
  · rw [staged.result]
    rfl
  · rw [staged.stored]
    decide +kernel

end ArtifactGroups
