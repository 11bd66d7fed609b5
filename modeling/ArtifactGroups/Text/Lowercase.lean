import ArtifactGroups.Text.Lowercase.Table

/-! Unicode's full lower-casing of a text. Two characters need more than a table look-up:
a dotted capital I becomes two characters, and a capital sigma takes its final form at the
end of a word. -/
namespace ArtifactGroups.Text

namespace Lowercase

def Run.imageOf? (run : Run) (code : Nat) : Option Nat :=
  if run.first ≤ code ∧ code ≤ run.last ∧ (code - run.first) % run.step = 0 then
    some (run.image + (code - run.first))
  else none

def ofChar (c : Char) : List Char :=
  if c = '\u0130' then ['i', '\u0307']
  else match runs.findSome? (·.imageOf? c.toNat) with
    | some code => [Char.ofNat code]
    | none => [c]

/-- Whether a cased character comes next, marks inside a word aside. -/
def meetsCased (text : List Char) : Bool :=
  match text.dropWhile (inRanges caseIgnorable) with
  | [] => false
  | c :: _ => inRanges cased c

/-- `before` is what precedes the sigma, nearest character first. -/
def sigma (before after : List Char) : Char :=
  if meetsCased before && !meetsCased after then 'ς' else 'σ'

def lowerFrom (before : List Char) : List Char → List Char
  | [] => []
  | c :: rest =>
    (if c = 'Σ' then [sigma before rest] else ofChar c) ++ lowerFrom (c :: before) rest

end Lowercase

def lowercase (text : String) : String := String.ofList (Lowercase.lowerFrom [] text.toList)

end ArtifactGroups.Text
