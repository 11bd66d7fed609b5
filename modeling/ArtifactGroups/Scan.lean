import ArtifactGroups.Scan.Walk

/-! Scanning a source: every document in order, a line `group|artifact` on the output for each
match, reports for people on the diagnostic stream. The output is flushed once, whatever
happens, so that the matches before a failure stay visible. -/
namespace ArtifactGroups.Scan

structure Report where
  total : Nat
  scanned : Nat
  matched : Nat
  deriving DecidableEq, Repr

structure Run where
  result : Except Error Report
  fetched : Nat
  out : Sink
  diag : Sink

/-- A closed output leaves the report as it stands. -/
def Stop.result (report : Report) : Stop → Except Error Report
  | .outputGone => .ok report
  | .failed error => .error error

def State.report (state : State) (total : Nat) : Report :=
  ⟨total, state.scanned, state.matched⟩

def State.ended (state : State) (result : Except Error Report) : Run :=
  ⟨result, state.fetched, state.out, state.diag⟩

/-- The output went away: what was done so far is the result. -/
def State.closed (state : State) (total : Nat) (level : Level) : Run :=
  { state with diag := state.diag.note level (closedEvent state.scanned state.matched) }.ended
    (.ok (state.report total))

/-- All documents were visited and all matches are out. -/
def State.completed (state : State) (source : Source) (options : Options)
    (level : Level) : Run :=
  let report := state.report source.total
  let finishing : Walk Unit := do
    Walk.announce options completionText
    Walk.flushDiag
    Walk.note level fun _ =>
      finishedEvent source.location report.total report.scanned report.matched
  match finishing state with
  | .ok _ state => state.ended (.ok report)
  | .error stop state => state.ended (stop.result report)

/-- The end of a walk that met no failure, or only lost the reader of its output. -/
def State.settled (state : State) (source : Source) (options : Options) (level : Level)
    (outputGone : Bool) : Run :=
  let (out, fault) := state.out.flush
  let state := { state with out }
  match fault with
  | some fault =>
    if fault.isBrokenPipe then state.closed source.total level
    else state.ended (.error (.io fault))
  | none =>
    if outputGone then state.closed source.total level
    else state.completed source options level

/-- What a walk came to, once the output is flushed. A failure of the walk goes before a
failure of the flush, and a broken pipe is a failure in neither. -/
def conclude (source : Source) (options : Options) (level : Level) :
    EStateM.Result Stop State Unit → Run
  | .error (.failed error) state =>
    { state with out := state.out.flush.1 }.ended (.error error)
  | .error .outputGone state => state.settled source options level true
  | .ok _ state => state.settled source options level false

/-- Scans all documents of a source. Invalid options touch neither stream; a failure to
announce the total ends the scan before the output is used at all. -/
def run (source : Source) (options : Options) (out diag : Sink) (level : Level := .warn) :
    Run :=
  let start : State := { out, diag }
  match options.ensureValid with
  | .error error => start.ended (.error error)
  | .ok () =>
    match Walk.announce options (totalText source.total) start with
    | .ok _ state =>
      conclude source options level (Walk.visitAll source options level 0 source.total state)
    | .error stop state => state.ended (stop.result (state.report source.total))

end ArtifactGroups.Scan
