import ArtifactGroups.Error

/-! How ordinals run through the segments of an index. An ordinal is a 64-bit word; inside an
index a document has a 32-bit segment number and a 32-bit position in that segment. -/
namespace ArtifactGroups.Index

/-- The first ordinal of each segment, and the number of ordinals. -/
structure Layout where
  starts : List UInt64 := []
  total : UInt64 := 0
  deriving DecidableEq, Repr

structure Address where
  segment : UInt32
  position : UInt32
  deriving DecidableEq, Repr

namespace Layout

def push (layout : Layout) (size : UInt32) : Layout :=
  ⟨layout.starts ++ [layout.total], layout.total + size.toUInt64⟩

def ofSizes (sizes : List UInt32) : Layout := sizes.foldl push {}

/-- The segment is the last one that starts at or before the ordinal, which also passes over
empty segments: they start where the next one does. -/
def address (layout : Layout) (ordinal : UInt64) : Except Error Address :=
  if layout.total ≤ ordinal then
    .error (.ordinalTooLarge ordinal.toNat layout.total.toNat)
  else
    let segment := (layout.starts.takeWhile (· ≤ ordinal)).length - 1
    .ok ⟨UInt32.ofNat segment, (ordinal - layout.starts.getD segment 0).toUInt32⟩

end Layout

end ArtifactGroups.Index
