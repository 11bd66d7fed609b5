import ArtifactGroups.Alias.Acceptance
import ArtifactGroups.Alias.Input
import ArtifactGroups.Alias.Table
import ArtifactGroups.Coordinate
import ArtifactGroups.Log
import ArtifactGroups.Text.Blank
import ArtifactGroups.Text.Quoted

/-! Building an alias table from lines `group|artifact`. Every line is counted, and counted
once more for what became of it. -/
namespace ArtifactGroups.Alias

@[ext]
structure Tally where
  lines : Nat := 0
  /-- Lines that are no pair. -/
  malformed : Nat := 0
  /-- Pairs that were turned down. -/
  skipped : Nat := 0
  /-- Good pairs whose artifact had a group already. -/
  collisions : Nat := 0
  /-- Pairs that became an entry. -/
  accepted : Nat := 0
  deriving DecidableEq, Repr

/-- What a line says by itself, whatever the table holds. -/
inductive Verdict where
  | malformed
  | rejected (group artifact : String) (reason : Rejection)
  | pair (group artifact : String)
  deriving DecidableEq, Repr

/-- Blanks around the line do not count. A pair has exactly one separator. -/
def Verdict.ofLine (line : String) : Verdict :=
  match Text.pieces Coordinate.separator (Text.trim line) with
  | [group, artifact] =>
    match rejection? group artifact with
    | some reason => .rejected group artifact reason
    | none => .pair group artifact
  | _ => .malformed

structure Ledger where
  table : Table := .seeded
  tally : Tally := {}
  deriving DecidableEq, Repr

namespace Ledger

/-- Enters a pair and counts a verdict. A group that is there already stays. -/
def note (ledger : Ledger) : Verdict → Ledger
  | .malformed => { ledger with tally.malformed := ledger.tally.malformed + 1 }
  | .rejected _ _ _ => { ledger with tally.skipped := ledger.tally.skipped + 1 }
  | .pair group artifact =>
    if ledger.table.contains artifact then
      { ledger with tally.collisions := ledger.tally.collisions + 1 }
    else
      { ledger with
        table := ledger.table.insert artifact group
        tally.accepted := ledger.tally.accepted + 1 }

def addLine (ledger : Ledger) (line : String) : Ledger :=
  { ledger with tally.lines := ledger.tally.lines + 1 }.note (.ofLine line)

def addLines (ledger : Ledger) (lines : List String) : Ledger :=
  lines.foldl addLine ledger

/-- Lines before a failure count. -/
def read (ledger : Ledger) (input : Input) : Ledger × Option Error :=
  let (lines, failure) := input.lines
  (ledger.addLines lines, failure.map .io)

def logTarget : String := "vendor_alias::alias"

def skipEvent? (line : String) : Option Event :=
  match Verdict.ofLine line with
  | .rejected group artifact reason => some {
      level := .debug
      target := logTarget
      message := "Pair skipped"
      fields := [("group", Text.quoted group), ("artifact", Text.quoted artifact),
        ("reason", reason.name)] }
  | _ => none

def finishedEvent (ledger : Ledger) : Event where
  level := .info
  target := logTarget
  message := "Alias map generated"
  fields := [("aliases", toString ledger.table.size), ("lines", toString ledger.tally.lines),
    ("accepted", toString ledger.tally.accepted), ("skipped", toString ledger.tally.skipped),
    ("collisions", toString ledger.tally.collisions)]

end Ledger

end ArtifactGroups.Alias
