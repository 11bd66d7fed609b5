import ArtifactGroups.Buffer
import ArtifactGroups.CommandLine.Help
import ArtifactGroups.Program.Aliases
import ArtifactGroups.Program.Dump

/-! The two tools as programs: from arguments, files and standard input to an exit status, two
streams and changed files. -/
namespace ArtifactGroups

inductive Tool where
  | indexDump
  | aliasGen
  deriving DecidableEq, Repr

structure Exit where
  code : Nat
  stdout : Bytes := []
  stderr : Bytes := []
  volume : Volume

namespace Tool

/-- The exit status of a failure, be it of the usage or of the work. -/
def failureCode : Nat := 1

def command : Tool → CommandLine.Command
  | .indexDump => CommandLine.indexDump
  | .aliasGen => CommandLine.aliasGen

def ofName? (name : String) : Option Tool :=
  [Tool.indexDump, .aliasGen].find? (·.command.name == name)

/-- What the programs leave to others. -/
structure Libraries where
  index : Index.Library := .observed
  /-- The lines on how to call a program, below the message of a usage error. -/
  usageText : Tool → CommandLine.UsageError → String := fun _ _ => ""

def stopped (tool : Tool) (volume : Volume) (libraries : Libraries) : CommandLine.Stop → Exit
  | .usage error =>
    let message := error.message ++ "\n" ++ libraries.usageText tool error
    { code := failureCode, stderr := Text.utf8 message, volume }
  | .help => { code := 0, stdout := Text.utf8 tool.command.helpText, volume }
  | .version => { code := 0, stdout := Text.utf8 tool.command.versionText, volume }

def finished {α : Type} (result : Except Failure α) (stdout stderr : Sink) (volume : Volume) :
    Exit :=
  match result with
  | .ok _ => { code := 0, stdout := stdout.stored, stderr := stderr.stored, volume }
  | .error failure =>
    let stderr := (stderr.writeText ("Error: " ++ failure.chain ++ "\n")).1
    { code := failureCode, stdout := stdout.stored, stderr := stderr.stored, volume }

/-- The matches reach the standard output through a buffer. -/
def runIndexDump (arguments : List String) (volume : Volume) (libraries : Libraries) : Exit :=
  match CommandLine.DumpArguments.parse arguments with
  | .error stop => stopped .indexDump volume libraries stop
  | .ok arguments =>
    let run :=
      volume.dump arguments.index arguments.options {} {} arguments.level libraries.index
    finished run.result (Buffer.relay run.out.history.reverse) run.diag volume

def runAliasGen (arguments : List String) (volume : Volume) (standardInput : Alias.Input)
    (libraries : Libraries) : Exit :=
  match CommandLine.AliasArguments.parse arguments with
  | .error stop => stopped .aliasGen volume libraries stop
  | .ok arguments =>
    let run := volume.makeAliases standardInput arguments.input arguments.output {}
    let log : Sink := run.state.events.foldl (·.note arguments.level ·) {}
    finished run.result run.state.status log run.state.volume

def run (tool : Tool) (arguments : List String) (volume : Volume)
    (standardInput : Alias.Input) (libraries : Libraries := {}) : Exit :=
  match tool with
  | .indexDump => runIndexDump arguments volume libraries
  | .aliasGen => runAliasGen arguments volume standardInput libraries

end Tool

end ArtifactGroups
