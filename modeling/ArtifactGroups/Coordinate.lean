import ArtifactGroups.Document
import ArtifactGroups.Text.Search

/-! A coordinate names a published artifact and the group that publishes it. A document
carries it either in two fields of its own or in one composite field, whose first two pieces
are the group and the artifact. The two ways are never mixed. -/
namespace ArtifactGroups

structure Coordinate where
  group : String
  artifact : String
  deriving DecidableEq, Repr

structure FieldNames where
  group : String := "g"
  artifact : String := "a"
  composite : String := "u"
  deriving DecidableEq, Repr

namespace Coordinate

def separator : Char := '|'

/-- The written form, which `ofComposite?` reads. -/
def shown (c : Coordinate) : String := c.group ++ separator.toString ++ c.artifact

/-- The line of a listing, in the pieces in which it is written. -/
def linePieces (c : Coordinate) : List String :=
  [c.group, separator.toString, c.artifact, "\n"]

def isComplete (c : Coordinate) : Bool := !c.group.isEmpty && !c.artifact.isEmpty

def dropTrailingEmpty (pieces : List String) : List String :=
  (pieces.reverse.dropWhile (·.isEmpty)).reverse

/-- The first two pieces of a composite value. Empty pieces at its end do not count, so
a group and a separator alone are no coordinate; an empty group before an artifact is one. -/
def ofComposite? (composite : String) : Option Coordinate :=
  match dropTrailingEmpty (Text.pieces separator composite) with
  | group :: artifact :: _ => some ⟨group, artifact⟩
  | _ => none

end Coordinate

namespace Document

def nonEmptyText? (doc : Document) (name : String) : Option String :=
  (doc.text? name).filter fun content => !content.isEmpty

/-- The two fields of their own win when both hold text. Otherwise the composite field gives
both parts, and neither may be empty. -/
def coordinate? (doc : Document) (names : FieldNames) : Option Coordinate :=
  match doc.nonEmptyText? names.group, doc.nonEmptyText? names.artifact with
  | some group, some artifact => some ⟨group, artifact⟩
  | _, _ =>
    ((doc.text? names.composite).bind Coordinate.ofComposite?).filter (·.isComplete)

end Document

end ArtifactGroups
