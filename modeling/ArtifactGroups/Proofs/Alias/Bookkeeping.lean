import ArtifactGroups.Proofs.Alias.Ledger

/-! The books of a ledger balance at any time: every line is counted under exactly one of its
four fates, an entry stands for an accepted line, and no entry is ever changed. -/
namespace ArtifactGroups.Alias

/-- What a ledger can be given at once: one line, or all lines of a stream. -/
inductive Feed where
  | line (text : String)
  | stream (input : Input)

/-- The lines that are counted. Those of a stream end before its failure. -/
def Feed.lines : Feed → List String
  | .line text => [text]
  | .stream input => input.lines.1

namespace Ledger

def take (ledger : Ledger) : Feed → Ledger
  | .line text => ledger.addLine text
  | .stream input => (ledger.read input).1

def takeAll (ledger : Ledger) (feeds : List Feed) : Ledger := feeds.foldl take ledger

theorem take_eq (ledger : Ledger) (feed : Feed) :
    ledger.take feed = ledger.addLines feed.lines := by
  cases feed with
  | line text => rw [take, Feed.lines, addLines, List.foldl_cons, List.foldl_nil]
  | stream input => rw [take, Feed.lines, read]

theorem takeAll_eq (ledger : Ledger) (feeds : List Feed) :
    ledger.takeAll feeds = ledger.addLines (feeds.flatMap Feed.lines) := by
  induction feeds generalizing ledger with
  | nil => rfl
  | cons feed rest ih =>
    have next := ih (ledger.take feed)
    rw [take_eq] at next
    rw [takeAll, List.foldl_cons, take_eq, ← takeAll, next, List.flatMap_cons, addLines, addLines,
      addLines, List.foldl_append]

/-- The books of a ledger that started with the table `start` and no count. -/
structure Balanced (start : Table) (ledger : Ledger) : Prop where
  lines : ledger.tally.lines = ledger.tally.malformed + ledger.tally.skipped +
    ledger.tally.collisions + ledger.tally.accepted
  size : ledger.table.size = start.size + ledger.tally.accepted

theorem Balanced.start (table : Table) : Balanced table { table } := ⟨rfl, rfl⟩

/-- A line has one of four fates. -/
theorem Balanced.addLine {start : Table} {ledger : Ledger} (balanced : Balanced start ledger)
    (line : String) : Balanced start (ledger.addLine line) := by
  have lines := balanced.lines
  have size := balanced.size
  unfold Ledger.addLine
  cases Verdict.ofLine line with
  | malformed =>
    refine ⟨?_, size⟩
    simp only [note]
    omega
  | rejected =>
    refine ⟨?_, size⟩
    simp only [note]
    omega
  | pair group artifact =>
    simp only [note]
    cases known : ledger.table.contains artifact with
    | true =>
      refine ⟨?_, size⟩
      simp only [if_true]
      omega
    | false =>
      simp only [Bool.false_eq_true, if_false]
      constructor
      · simp only
        omega
      · rw [Table.size_insert group known]
        simp only
        omega

theorem Balanced.addLines {start : Table} {ledger : Ledger} (balanced : Balanced start ledger)
    (lines : List String) : Balanced start (ledger.addLines lines) := by
  induction lines generalizing ledger with
  | nil => exact balanced
  | cons line rest ih =>
    rw [Ledger.addLines, List.foldl_cons, ← Ledger.addLines]
    exact ih (balanced.addLine line)

theorem get?_addLines_of_some {ledger : Ledger} {artifact group : String}
    (entry : ledger.table.get? artifact = some group) (lines : List String) :
    (ledger.addLines lines).table.get? artifact = some group := by
  rw [get?_addLines, entry, Option.some_or]

/-- At any time the lines are the sum of their four fates. The malformed ones are those without
exactly one separator, the skipped ones are the other ones whose pair is turned down, and every
accepted one made an entry. Entries of the start and later ones stay. -/
theorem takeAll_balanced (start : Table) (feeds : List Feed) :
    let lines := feeds.flatMap Feed.lines
    let ledger := ({ table := start } : Ledger).takeAll feeds
    ledger.tally.lines = lines.length ∧
      ledger.tally.lines = ledger.tally.malformed + ledger.tally.skipped +
        ledger.tally.collisions + ledger.tally.accepted ∧
      ledger.tally.malformed = lines.countP (fun line =>
        (Text.trim line).toList.count Coordinate.separator ≠ 1) ∧
      ledger.tally.skipped = lines.countP (fun line =>
        (Text.trim line).toList.count Coordinate.separator = 1 ∧
          (rejection? (Verdict.groupIn line) (Verdict.artifactIn line)).isSome) ∧
      ledger.table.size = start.size + ledger.tally.accepted ∧
      (∀ artifact group, start.get? artifact = some group →
        ledger.table.get? artifact = some group) ∧
      ∀ artifact group, ledger.table.get? artifact = some group →
        ∀ more : List Feed, (ledger.takeAll more).table.get? artifact = some group := by
  intro lines ledger
  have read : ledger = ({ table := start } : Ledger).addLines lines := takeAll_eq _ feeds
  have balanced : Balanced start ledger := read ▸ (Balanced.start start).addLines lines
  obtain ⟨counted, malformed, skipped⟩ := tally_addLines { table := start } lines
  rw [← read] at counted malformed skipped
  refine ⟨?_, balanced.lines, ?_, ?_, balanced.size, ?_, ?_⟩
  · exact counted.trans (Nat.zero_add _)
  · rw [malformed, Nat.zero_add]
    simp only [Verdict.isMalformed_ofLine, Verdict.isPair, decide_not]
  · rw [skipped, Nat.zero_add]
    simp only [Verdict.isRejected_ofLine, Verdict.isPair, Bool.decide_and, Bool.decide_eq_true]
  · intro artifact group entry
    rw [read]
    exact get?_addLines_of_some entry lines
  · intro artifact group entry more
    rw [takeAll_eq]
    exact get?_addLines_of_some entry _

/-- A stream that fails in its third line, behind a line that collides with the start. -/
theorem takeAll_balanced_failing_stream :
    let start : Table := { entries := [("maven-core", "org.apache.maven")] }
    let stream : Input := {
      bytes := Text.utf8 "org.eclipse|maven-core\n org.osgi|osgi-cm \r\norg.slf"
      failure := some (.stream .other "connection lost") }
    let feeds : List Feed := [.line "a|b|c", .stream stream, .line "org.apache|camel-docs"]
    let ledger := ({ table := start } : Ledger).takeAll feeds
    start.get? "maven-core" = some "org.apache.maven" ∧
      ledger.tally = ⟨4, 1, 1, 1, 1⟩ ∧ ledger.table.size = 2 ∧
      ledger.table.get? "maven-core" = some "org.apache.maven" ∧
      ledger.table.get? "osgi-cm" = some "org.osgi" ∧
      (ledger.takeAll [.line "org.other|osgi-cm"]).table.get? "osgi-cm" = some "org.osgi" := by
  intro start stream feeds ledger
  obtain ⟨-, -, -, -, size, kept, stays⟩ := takeAll_balanced start feeds
  have tally : ledger.tally = ⟨4, 1, 1, 1, 1⟩ := by decide +kernel
  have entry : ledger.table.get? "osgi-cm" = some "org.osgi" := by decide +kernel
  rw [tally] at size
  exact ⟨rfl, tally, size, kept _ _ rfl, entry, stays _ _ entry _⟩

end Ledger

end ArtifactGroups.Alias
