import ArtifactGroups.Text.Lowercase
import ArtifactGroups.Text.Search

/-! Which pairs make useful aliases. An artifact has to look like the name of a bundle: with a
hyphen, in lower case, and neither documentation nor an example, a test or a sample. -/
namespace ArtifactGroups.Alias

inductive Rejection where
  | noHyphen
  | sameAsGroup
  | docs
  | incubating
  | exampleCode
  | testCode
  | notLowercase
  | sampleCode
  deriving DecidableEq, Repr

namespace Rejection

def name : Rejection → String
  | .noHyphen => "NoHyphen"
  | .sameAsGroup => "SameAsGroup"
  | .docs => "Docs"
  | .incubating => "Incubating"
  | .exampleCode => "Example"
  | .testCode => "Test"
  | .notLowercase => "NotLowercase"
  | .sampleCode => "Sample"

/-- In the order in which a reason is given when several apply. -/
def all : List Rejection :=
  [.noHyphen, .sameAsGroup, .docs, .incubating, .exampleCode, .testCode, .notLowercase,
    .sampleCode]

def eitherContains (group artifact word : String) : Bool :=
  Text.contains group word || Text.contains artifact word

def applies (group artifact : String) : Rejection → Bool
  | .noHyphen => !Text.contains artifact "-"
  | .sameAsGroup => group == artifact
  | .docs => Text.contains artifact "docs"
  | .incubating => Text.contains artifact "incubating"
  | .exampleCode => eitherContains group artifact "example"
  | .testCode => eitherContains group artifact "test"
  | .notLowercase => Text.lowercase artifact != artifact
  | .sampleCode => eitherContains group artifact "sample"

end Rejection

/-- The first reason to turn a pair down; without one it is accepted. -/
def rejection? (group artifact : String) : Option Rejection :=
  Rejection.all.find? (·.applies group artifact)

end ArtifactGroups.Alias
