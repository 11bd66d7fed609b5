import ArtifactGroups.Text.Search

/-! The allowlist of groups. A group passes when any rule matches it; letters are compared
as they stand, upper and lower case apart. -/
namespace ArtifactGroups

inductive Rule where
  | startsWith (pattern : String)
  | contains (pattern : String)
  deriving DecidableEq, Repr

def Rule.allows (group : String) : Rule → Bool
  | .startsWith pattern => Text.startsWith group pattern
  | .contains pattern => Text.contains group pattern

structure Allowlist where
  rules : List Rule
  deriving DecidableEq, Repr

namespace Allowlist

def allows (list : Allowlist) (group : String) : Bool := list.rules.any (·.allows group)

/-- The positions of the rules that match. -/
def matchingRules (list : Allowlist) (group : String) : List Nat :=
  list.rules.zipIdx.filterMap fun (rule, position) =>
    if rule.allows group then some position else none

/-- Foundations and projects whose groups begin alike. -/
def defaultBeginnings : List String := [
  "org.eclipse", "org.apache", "org.springframework", "com.fasterxml.jackson", "org.quartz.",
  "org.osgi.", "org.opencastproject.", "org.slf4j.", "org.w3c.", "com.sun."]

/-- Projects that are recognised anywhere in a group. -/
def defaultParts : List String := [
  "scala", "gradle", "com.lihaoyi", "org.checkerframework", "antlr4"]

def standard : Allowlist :=
  ⟨defaultBeginnings.map .startsWith ++ defaultParts.map .contains⟩

end Allowlist

end ArtifactGroups
