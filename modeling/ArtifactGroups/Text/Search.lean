/-! Searching and cutting text. `startsWith_iff` and `contains_iff` give the meaning of the
two tests as list prefixes and infixes of characters. -/
namespace ArtifactGroups.Text

def startsWith (text pattern : String) : Bool := pattern.toList.isPrefixOf text.toList

/-- Tries the pattern at every position, the end of the text included. -/
def occursIn (pattern : List Char) : List Char → Bool
  | [] => pattern.isEmpty
  | c :: rest => pattern.isPrefixOf (c :: rest) || occursIn pattern rest

def contains (text pattern : String) : Bool := occursIn pattern.toList text.toList

/-- The pieces between the separators; a text without one is a single piece. -/
def pieces (separator : Char) (text : String) : List String :=
  (text.toList.splitOn separator).map String.ofList

theorem startsWith_iff {text pattern : String} :
    startsWith text pattern = true ↔ pattern.toList <+: text.toList :=
  List.isPrefixOf_iff_prefix

theorem occursIn_iff {pattern text : List Char} :
    occursIn pattern text = true ↔ pattern <:+: text := by
  induction text with
  | nil => simp [occursIn]
  | cons c rest ih => simp [occursIn, ih, List.infix_cons_iff]

theorem contains_iff {text pattern : String} :
    contains text pattern = true ↔ pattern.toList <:+: text.toList :=
  occursIn_iff

end ArtifactGroups.Text
