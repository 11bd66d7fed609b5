import ArtifactGroups.Index.Layout
import ArtifactGroups.Index.Schema
import ArtifactGroups.Log
import ArtifactGroups.Source
import ArtifactGroups.Text.Quoted

/-! An opened index. It is read through ordinals that run through its segments, and keeps what
it was opened with, whatever becomes of the files. -/
namespace ArtifactGroups.Index

/-- What the index library gives when an index is opened. -/
structure Searcher where
  /-- The names of the fields. -/
  names : List String
  /-- The number of documents in each segment. -/
  sizes : List UInt32
  /-- The named values of a document, or why it cannot be read. -/
  document : Address → Except String Record

def Value.stored : Value → StoredValue
  | .text content => .text content
  | .number n => .other (toString n.toNat)

def namedFields (values : Record) : List Field :=
  values.map fun (name, value) => ⟨name, value.stored⟩

structure Snapshot where
  location : String
  searcher : Searcher

namespace Snapshot

/-- Ordinals run through the segments in the order of the searcher. -/
def layout (snapshot : Snapshot) : Layout := .ofSizes snapshot.searcher.sizes

def total (snapshot : Snapshot) : UInt64 := snapshot.layout.total

def segmentCount (snapshot : Snapshot) : Nat := snapshot.layout.starts.length

def fieldNames (snapshot : Snapshot) : List String := snapshot.searcher.names

def document (snapshot : Snapshot) (ordinal : UInt64) : Except Error Document := do
  let address ← snapshot.layout.address ordinal
  match snapshot.searcher.document address with
  | .ok values => .ok ⟨ordinal.toNat, namedFields values⟩
  | .error reason => .error (.unreadableDocument ordinal.toNat reason)

def source (snapshot : Snapshot) : Source where
  location := snapshot.location
  total := snapshot.total.toNat
  fetch ordinal := snapshot.document (UInt64.ofNat ordinal)

def shown (snapshot : Snapshot) : String :=
  "IndexScanner \x7b path: " ++ Text.quoted snapshot.location ++ ", segments: "
    ++ toString snapshot.segmentCount ++ ", max_doc: " ++ toString snapshot.total.toNat ++ " \x7d"

def openedEvent (snapshot : Snapshot) : Event where
  level := .info
  target := "vendor_alias::index"
  message := "Index opened"
  fields := [("path", snapshot.location), ("segments", toString snapshot.segmentCount),
    ("max_doc", toString snapshot.total.toNat)]

end Snapshot

end ArtifactGroups.Index
