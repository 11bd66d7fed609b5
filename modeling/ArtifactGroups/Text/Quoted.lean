import ArtifactGroups.Text.Quoted.Table

/-! Text between double quotes, as log fields and descriptions of values show it: what
cannot be seen on a page is spelled out, everything else stands as it is. -/
namespace ArtifactGroups.Text

namespace Quoted

/-- Lower-case hexadecimal digits, the fewest that name the code point. -/
def code (c : Char) : List Char := Nat.toDigits 16 c.toNat

/-- The spelling of one character. The apostrophe needs no escape between double quotes. -/
def spell (c : Char) : List Char :=
  if c = '\x00' then ['\\', '0']
  else if c = '\t' then ['\\', 't']
  else if c = '\r' then ['\\', 'r']
  else if c = '\n' then ['\\', 'n']
  else if c = '"' then ['\\', '"']
  else if c = '\\' then ['\\', '\\']
  else if inRanges unseen c then ['\\', 'u', '\x7b'] ++ code c ++ ['\x7d']
  else [c]

end Quoted

def quoted (text : String) : String :=
  String.ofList ('"' :: text.toList.flatMap Quoted.spell ++ ['"'])

end ArtifactGroups.Text
