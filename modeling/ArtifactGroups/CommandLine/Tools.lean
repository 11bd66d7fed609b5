import ArtifactGroups.CommandLine.Parse
import ArtifactGroups.Log
import ArtifactGroups.Scan.Options
import ArtifactGroups.Text.Search

/-! The command lines of the two tools and the settings that they come to. -/
namespace ArtifactGroups.CommandLine

def verboseFlag : Flag := ⟨"verbose", some 'v', .counter, "Log more (repeat for debug)"⟩

def indexDump : Command where
  name := "index-dump"
  about := "Print group|artifact pairs of allowlisted groups from a search index"
  operand := { name := "INDEX_DIR", help := "Path to the unpacked index directory" }
  flags := [
    ⟨"quiet", some 'q', .switch,
      "No diagnostics or progress on stderr (matches are still printed)"⟩,
    ⟨"no-debug-dump", none, .switch, "Do not print the fields of document 0"⟩,
    ⟨"progress-every", none, .value "N" .count (toString Scan.defaultInterval),
      "Documents between progress markers"⟩,
    verboseFlag]

structure DumpArguments where
  index : String
  quiet : Bool
  showFirst : Bool
  markEvery : Nat
  verbose : Nat
  deriving DecidableEq, Repr

namespace DumpArguments

def ofSettings (settings : Settings) : DumpArguments where
  index := (settings.text? indexDump.operand.name).getD ""
  quiet := settings.has "quiet"
  showFirst := !settings.has "no-debug-dump"
  markEvery := (settings.number? "progress-every").getD Scan.defaultInterval
  verbose := settings.count "verbose"

def parse (arguments : List String) : Except Stop DumpArguments :=
  (indexDump.parse arguments).map ofSettings

def options (arguments : DumpArguments) : Scan.Options where
  markEvery := arguments.markEvery
  showFirst := arguments.showFirst
  quiet := arguments.quiet

def level (arguments : DumpArguments) : Level := .ofCount arguments.verbose

end DumpArguments

def defaultInput : String := "eclipse_artifacts.txt"

def defaultOutput : String := "vendor-alias.json"

def standardInput : String := "-"

/-- Whether a path means the standard input. Slashes behind the name do not count, nor do
single dots between them. -/
def isStandardInput (path : String) : Bool :=
  match Text.pieces '/' path with
  | name :: rest => name == standardInput && rest.all fun part => part.isEmpty || part == "."
  | [] => false

def aliasGen : Command where
  name := "alias-gen"
  about := "Build an artifact -> group alias map from index-dump output"
  operand := {
    name := "INPUT", default := some defaultInput, help := "group|artifact lines, '-' for stdin" }
  flags := [
    ⟨"output", some 'o', .value "FILE" .path defaultOutput, "JSON file to write"⟩,
    verboseFlag]

structure AliasArguments where
  input : String
  output : String
  verbose : Nat
  deriving DecidableEq, Repr

namespace AliasArguments

def ofSettings (settings : Settings) : AliasArguments where
  input := (settings.text? aliasGen.operand.name).getD defaultInput
  output := (settings.text? "output").getD defaultOutput
  verbose := settings.count "verbose"

def parse (arguments : List String) : Except Stop AliasArguments :=
  (aliasGen.parse arguments).map ofSettings

def level (arguments : AliasArguments) : Level := .ofCount arguments.verbose

end AliasArguments

end ArtifactGroups.CommandLine
