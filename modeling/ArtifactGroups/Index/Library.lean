import ArtifactGroups.Index.Snapshot
import ArtifactGroups.Volume

/-! The library that keeps indexes. It alone knows how an index lies in its files: it is handed the
batches of a draft one by one, and gives a searcher when the index is opened. -/
namespace ArtifactGroups.Index

structure Library where
  /-- Whether a field can have this name. -/
  takesName : String → Bool
  /-- What makes a directory an index once these batches are committed, if all names are taken. -/
  commit : Schema → List (List Record) → Entry
  /-- Opens what was found in a directory, or says why it does not. -/
  attach : Option Entry → Except String Searcher

def notSmaller (s t : List Record) : Bool := t.length ≤ s.length

/-- Each batch is a segment. The largest comes first. -/
def Manifest.segments (manifest : Manifest) : List (List Record) :=
  manifest.batches.mergeSort notSmaller

def inOrder (s t : String × Value) : Bool := !Text.precedes t.1 s.1

/-- Values come back by name in byte order, those of one name as they were added. -/
def byName (record : Record) : Record := record.mergeSort inOrder

def Manifest.searcher (manifest : Manifest) (damage : String) : Searcher :=
  let segments := manifest.segments
  { names := manifest.schema.names
    sizes := segments.map fun segment => UInt32.ofNat segment.length
    document := fun address =>
      match segments[address.segment.toNat]?.bind (·[address.position.toNat]?) with
      | some record => if manifest.store = .intact then .ok (byName record) else .error damage
      | none => .error damage }

/-- The library as far as it was observed. What it says of damaged files was not, and neither was
the text of a manifest. -/
def Library.observed (damage : String := "")
    (text : Schema → List (List Record) → Bytes := fun _ _ => []) : Library where
  takesName name := !(name.isEmpty || Text.startsWith name "-")
  commit schema batches := .manifest { schema, batches, text := text schema batches }
  attach
    | none => .error "Failed to open file for read: 'FileDoesNotExist(\"meta.json\")'"
    | some (.manifest manifest) =>
      if manifest.store = .missing then .error damage else .ok (manifest.searcher damage)
    | some _ => .error damage

end ArtifactGroups.Index
