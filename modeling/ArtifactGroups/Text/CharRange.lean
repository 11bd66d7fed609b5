/-! Sets of characters given as ranges of code points, the form of the tables of Unicode
properties. -/
namespace ArtifactGroups.Text

abbrev CharRange := Nat × Nat

def CharRange.covers (range : CharRange) (c : Char) : Bool :=
  range.1 ≤ c.toNat && c.toNat ≤ range.2

def inRanges (ranges : List CharRange) (c : Char) : Bool := ranges.any (·.covers c)

end ArtifactGroups.Text
