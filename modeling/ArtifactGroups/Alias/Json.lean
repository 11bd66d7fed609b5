import ArtifactGroups.Alias.Json.Reader
import ArtifactGroups.Alias.Json.Writer
import ArtifactGroups.Alias.Table
import ArtifactGroups.Sink

/-! Alias tables as JSON. Keys are written in the order of the table, that is sorted; when a
key is read more than once, its last value counts. -/
namespace ArtifactGroups.Alias.Table

def toJson (table : Table) : String := String.ofList (Json.object table.entries)

def ofJson? (bytes : Bytes) : Option Table := (Json.membersOfBytes? bytes).map ofMembers

/-- Takes over the table that a text holds, if it holds one, and answers whether it does. -/
def loadJson (table : Table) (bytes : Bytes) : Table × Bool :=
  match ofJson? bytes with
  | some loaded => (loaded, true)
  | none => (table, false)

/-- Writes the JSON text and flushes. A failed write is a failure of the JSON writer; only
after a whole text the sink is flushed, and that may fail by itself. -/
def writeJson (table : Table) (sink : Sink) : Sink × Option Error :=
  match sink.writeText table.toJson with
  | (sink, some fault) => (sink, some (.json fault.message))
  | (sink, none) =>
    let (sink, fault) := sink.flush
    (sink, fault.map .io)

end ArtifactGroups.Alias.Table
