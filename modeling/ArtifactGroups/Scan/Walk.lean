import ArtifactGroups.Scan.Diagnostics
import ArtifactGroups.Scan.Options
import ArtifactGroups.Source

/-! The walk over all ordinals of a source. A visit fetches one document, shows it if it is
the first, writes its match and reports progress; the first step that fails ends the walk.
What was written until then stays. -/
namespace ArtifactGroups.Scan

structure State where
  /-- Fetches tried. -/
  fetched : Nat := 0
  /-- Documents obtained. -/
  scanned : Nat := 0
  /-- Matches written. -/
  matched : Nat := 0
  out : Sink
  diag : Sink

inductive Stop where
  /-- Nobody reads the matches any more, which is no error. -/
  | outputGone
  | failed (error : Error)
  deriving DecidableEq

abbrev Walk := EStateM Stop State

namespace Walk

def fetch (source : Source) (ordinal : Nat) : Walk Document := fun state =>
  let state := { state with fetched := state.fetched + 1 }
  match source.fetch ordinal with
  | .ok document => .ok document { state with scanned := state.scanned + 1 }
  | .error error => .error (.failed error) state

def say (text : String) : Walk Unit := fun state =>
  match state.diag.writeText text with
  | (diag, none) => .ok () { state with diag }
  | (diag, some fault) => .error (.failed (.io fault)) { state with diag }

/-- A quiet walk says nothing. -/
def announce (options : Options) (text : String) : Walk Unit :=
  if options.quiet then pure () else say text

def flushDiag : Walk Unit := fun state =>
  match state.diag.flush with
  | (diag, none) => .ok () { state with diag }
  | (diag, some fault) => .error (.failed (.io fault)) { state with diag }

/-- A match counts once its whole line is written. -/
def print (coordinate : Coordinate) : Walk Unit := fun state =>
  match state.out.writeTexts coordinate.linePieces with
  | (out, none) => .ok () { state with out, matched := state.matched + 1 }
  | (out, some fault) =>
    .error (if fault.isBrokenPipe then .outputGone else .failed (.io fault)) { state with out }

def note (level : Level) (event : State → Event) : Walk Unit := fun state =>
  .ok () { state with diag := state.diag.note level (event state) }

def dump (options : Options) (ordinal : Nat) (document : Document) : Walk Unit :=
  if options.shows ordinal then say (documentText document) else pure ()

def emit (options : Options) (document : Document) : Walk Unit :=
  match options.match? document with
  | some coordinate => print coordinate
  | none => pure ()

/-- A quiet walk logs its progress and shows no marker. -/
def mark (options : Options) (level : Level) (ordinal : Nat) : Walk Unit :=
  if options.marks ordinal then do
    note level fun state => progressEvent ordinal state.matched
    if options.quiet then pure () else do
      say progressMarker
      flushDiag
  else pure ()

def visit (source : Source) (options : Options) (level : Level) (ordinal : Nat) :
    Walk Unit := do
  let document ← fetch source ordinal
  dump options ordinal document
  emit options document
  mark options level ordinal

def visitAll (source : Source) (options : Options) (level : Level) :
    (ordinal count : Nat) → Walk Unit
  | _, 0 => pure ()
  | ordinal, count + 1 => do
    visit source options level ordinal
    visitAll source options level (ordinal + 1) count

end Walk

end ArtifactGroups.Scan
