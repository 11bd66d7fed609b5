import ArtifactGroups.Document
import ArtifactGroups.Error

/-! Where a scan takes its documents from. -/
namespace ArtifactGroups

/-- `total` is the number of ordinals that the source announces; `fetch` may still fail
below it. -/
structure Source where
  location : String
  total : Nat
  fetch : Nat → Except Error Document

namespace Source

def ofDocuments (location : String) (documents : List Document) : Source where
  location := location
  total := documents.length
  fetch ordinal :=
    match documents[ordinal]? with
    | some document => .ok document
    | none => .error (.ordinalTooLarge ordinal documents.length)

def announcing (source : Source) (total : Nat) : Source := { source with total }

def failingAt (source : Source) (bad : Nat) (reason : String) : Source :=
  { source with
    fetch := fun ordinal =>
      if ordinal = bad then .error (.unreadableDocument ordinal reason)
      else source.fetch ordinal }

end Source

end ArtifactGroups
