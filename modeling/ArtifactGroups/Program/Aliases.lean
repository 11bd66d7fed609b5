import ArtifactGroups.Alias.Ledger
import ArtifactGroups.Alias.Json
import ArtifactGroups.CommandLine.Tools
import ArtifactGroups.Volume

/-! Making an alias file from a file of lines. The output is created only when the whole table
is there, so a failure before that leaves it as it was. -/
namespace ArtifactGroups

namespace AliasFile

/-- What the work on an alias file goes along with: the stream for status lines, the files, and
the log events so far. -/
structure State where
  status : Sink
  volume : Volume
  events : List Event := []

abbrev Work := EStateM Failure State

namespace Work

def say (text : String) : Work Unit := fun state =>
  match state.status.writeText text with
  | (status, none) => .ok () { state with status }
  | (status, some fault) => .error ⟨none, .inr fault⟩ { state with status }

def log (events : List Event) : Work Unit := fun state =>
  .ok () { state with events := state.events ++ events }

/-- The lines to read: the standard input, or a file that is opened first. A directory can be
opened, and then fails to be read. -/
def openInput (path : String) (standardInput : Alias.Input) : Work Alias.Input := fun state =>
  if CommandLine.isStandardInput path then .ok standardInput state
  else match state.volume.read path with
    | .error fault => .error ⟨some ("opening " ++ path), .inr (.path fault)⟩ state
    | .ok (.error fault) => .ok { bytes := [], failure := some (.path fault) } state
    | .ok (.ok bytes) => .ok { bytes } state

def build (input : Alias.Input) : Work Alias.Ledger := do
  log (input.lines.1.filterMap Alias.Ledger.skipEvent?)
  match ({} : Alias.Ledger).read input with
  | (_, some error) => throw (.ofError error)
  | (ledger, none) =>
    log [ledger.finishedEvent]
    pure ledger

def save (path : String) (table : Alias.Table) : Work Unit := fun state =>
  match state.volume.fileToCreate path with
  | .error fault => .error ⟨some ("creating " ++ path), .inr (.path fault)⟩ state
  | .ok place =>
    let content := (table.writeJson {}).1.stored
    .ok () { state with volume := state.volume.put place (.file content) }

def run (standardInput : Alias.Input) (input output : String) :
    Work (Alias.Table × Alias.Tally) := do
  say ("Reading " ++ input ++ "...\n")
  let lines ← openInput input standardInput
  let ledger ← build lines
  say ("Generated " ++ toString ledger.table.size ++ " aliases.\n")
  save output ledger.table
  say ("Written to " ++ output ++ "\n")
  pure (ledger.table, ledger.tally)

end Work

end AliasFile

structure AliasRun where
  result : Except Failure (Alias.Table × Alias.Tally)
  state : AliasFile.State

def Volume.makeAliases (volume : Volume) (standardInput : Alias.Input) (input output : String)
    (status : Sink) : AliasRun :=
  match AliasFile.Work.run standardInput input output { status, volume } with
  | .ok made state => ⟨.ok made, state⟩
  | .error failure state => ⟨.error failure, state⟩

end ArtifactGroups
