import ArtifactGroups.Program.Tool

/-! The tools as one executable, whose first argument is the name of the tool. Only this
module touches the machine: it copies what the arguments name into a volume, runs the tool on
that, and puts the streams and the written file back. Indexes live in volumes alone, so an
index directory of the machine opens only as far as its manifest. -/
namespace ArtifactGroups.Shell

def isDirectory (path : String) : IO Bool := do
  try (← IO.FS.realPath path).isDir catch _ => pure false

/-- The directory part of a path; nothing for a bare name. -/
def above (path : String) : String := "/".intercalate (Text.pieces '/' path).dropLast

/-- Copies a directory, or a file with its content, or just the directory above a name that is
free. -/
def load (volume : Volume) (path : String) : IO Volume := do
  if ← isDirectory path then return volume.makeDirectories path
  match ← (IO.FS.readBinFile path).toBaseIO with
  | .ok content => return volume.install path (some content.data.toList)
  | .error _ =>
    if ← isDirectory (above path) then return volume.makeDirectories (above path)
    else return volume

/-- The files that a run may look at, and the one that it may write. -/
def files (tool : Tool) (arguments : List String) : List String × Option String :=
  match tool with
  | .indexDump =>
    match CommandLine.DumpArguments.parse arguments with
    | .ok asked => ([asked.index, asked.index ++ "/" ++ Volume.manifestName], none)
    | .error _ => ([], none)
  | .aliasGen =>
    match CommandLine.AliasArguments.parse arguments with
    | .ok asked => ([asked.input, asked.output], some asked.output)
    | .error _ => ([], none)

def readInput (tool : Tool) (paths : List String) : IO Alias.Input := do
  if tool = .aliasGen && paths.head?.any CommandLine.isStandardInput then
    return { bytes := (← (← IO.getStdin).readBinToEnd).data.toList }
  else return { bytes := [] }

def store (before after : Volume) (path : String) : IO Unit := do
  match after.read path with
  | .ok (.ok content) =>
    unless before = after do IO.FS.writeBinFile path ⟨content.toArray⟩
  | _ => pure ()

def run (tool : Tool) (arguments : List String) : IO UInt32 := do
  let (paths, output) := files tool arguments
  let volume ← paths.foldlM load {}
  let exit := tool.run arguments volume (← readInput tool paths)
  (← IO.getStdout).write ⟨exit.stdout.toArray⟩
  (← IO.getStderr).write ⟨exit.stderr.toArray⟩
  match output with
  | some path => store volume exit.volume path
  | none => pure ()
  return UInt32.ofNat exit.code

end ArtifactGroups.Shell

def main (arguments : List String) : IO UInt32 := do
  match arguments with
  | name :: rest =>
    match ArtifactGroups.Tool.ofName? name with
    | some tool => ArtifactGroups.Shell.run tool rest
    | none =>
      (← IO.getStderr).putStrLn ("error: there is no tool " ++ name)
      return 1
  | [] =>
    (← IO.getStderr).putStrLn "error: the name of a tool is missing"
    return 1
