import ArtifactGroups.Scan
import ArtifactGroups.Volume.Index

/-! Dumping the matches of an index. The steps come in a fixed order, and a step that fails
leaves what the later ones would have touched as it was: check the options, announce the
path, open the index, scan it. -/
namespace ArtifactGroups

structure DumpRun where
  result : Except Failure Scan.Report
  out : Sink
  diag : Sink

/-- Opens the index at a path and scans it. Only failures of the scan say that it was going
on. -/
def Volume.dump (volume : Volume) (path : String) (options : Scan.Options) (out diag : Sink)
    (level : Level := .warn) (library : Index.Library := .observed) : DumpRun :=
  match options.ensureValid with
  | .error error => ⟨.error (.ofError error), out, diag⟩
  | .ok () =>
    let (diag, fault) :=
      if options.quiet then (diag, none) else diag.writeText (Scan.openingText path)
    match fault with
    | some fault => ⟨.error (.ofError (.io fault)), out, diag⟩
    | none =>
      match volume.openIndex path library with
      | .error error => ⟨.error (.ofError error), out, diag⟩
      | .ok snapshot =>
        let run :=
          Scan.run snapshot.source options out (diag.note level snapshot.openedEvent) level
        ⟨run.result.mapError fun error => ⟨some ("scanning " ++ path), .inl error⟩,
          run.out, run.diag⟩

end ArtifactGroups
