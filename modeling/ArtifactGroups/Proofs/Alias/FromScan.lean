import ArtifactGroups.Proofs.Alias.Input
import ArtifactGroups.Proofs.Alias.Ledger
import ArtifactGroups.Proofs.Scan.Records

/-! The alias table that is built from the output of a scan. Writing and reading lines cancel
out as long as the listed coordinates are legible, and what is left is the acceptance of the
coordinates themselves. -/
namespace ArtifactGroups

/-- The line of the coordinate is read as it was written: no character of it is a separator or
a newline out of place, and none is trimmed. -/
structure Coordinate.Legible (c : Coordinate) : Prop where
  plain : c.Plain
  group_head : c.group.toList.head?.any Text.isBlank = false
  artifact_last : c.artifact.toList.getLast?.any Text.isBlank = false

def Coordinate.isAccepted (c : Coordinate) : Bool := (Alias.rejection? c.group c.artifact).isNone

namespace Coordinate

variable {c : Coordinate}

theorem legible_iff : c.Legible ↔ c.Plain ∧ c.group.toList.head?.any Text.isBlank = false ∧
    c.artifact.toList.getLast?.any Text.isBlank = false :=
  ⟨fun legible => ⟨legible.1, legible.2, legible.3⟩, fun ⟨plain, head, last⟩ => ⟨plain, head, last⟩⟩

instance (c : Coordinate) : Decidable c.Legible := decidable_of_iff' _ legible_iff

theorem Legible.isLine (legible : c.Legible) (complete : c.isComplete = true) :
    Alias.Input.IsLine c.shown := by
  constructor
  · intro newline
    rcases Scan.newline_mem_shown.1 newline with group | artifact
    · exact legible.plain.group_newline group
    · exact legible.plain.artifact_newline artifact
  · intro last
    have blank := legible.artifact_last
    rw [← getLast?_shown complete, last] at blank
    contradiction

theorem Legible.ofLine_shown (legible : c.Legible) (complete : c.isComplete = true) :
    Alias.Verdict.ofLine c.shown =
      match Alias.rejection? c.group c.artifact with
      | some reason => .rejected c.group c.artifact reason
      | none => .pair c.group c.artifact := by
  have trimmed : Text.trim c.shown = c.shown := by
    apply Text.trim_eq_self
    · rw [head?_shown complete]
      exact legible.group_head
    · rw [getLast?_shown complete]
      exact legible.artifact_last
  have pieces := pieces_shown legible.plain.group_separator legible.plain.artifact_separator
  cases verdict : Alias.rejection? c.group c.artifact with
  | none => simp only [Alias.Verdict.ofLine, trimmed, pieces, verdict]
  | some reason => simp only [Alias.Verdict.ofLine, trimmed, pieces, verdict]

end Coordinate

namespace Alias

variable {coordinates : List Coordinate}

theorem read_listing (ledger : Ledger)
    (each : ∀ c ∈ coordinates, c.isComplete = true ∧ c.Legible) :
    ledger.read { bytes := Text.utf8 (Scan.listing coordinates) } =
      (ledger.addLines (coordinates.map (·.shown)), none) := by
  have lines : ∀ text ∈ coordinates.map (·.shown), Input.IsLine text := by
    intro text member
    obtain ⟨c, inside, rfl⟩ := List.mem_map.1 member
    exact (each c inside).2.isLine (each c inside).1
  rw [Ledger.read, Scan.listing_eq_join, Input.lines_of_texts _ lines]
  rfl

theorem countP_malformed_shown (each : ∀ c ∈ coordinates, c.isComplete = true ∧ c.Legible) :
    (coordinates.map (·.shown)).countP (fun line => (Verdict.ofLine line).isMalformed) = 0 := by
  rw [List.countP_eq_zero]
  intro line member
  obtain ⟨c, inside, rfl⟩ := List.mem_map.1 member
  rw [(each c inside).2.ofLine_shown (each c inside).1]
  cases rejection? c.group c.artifact <;> simp [Verdict.isMalformed]

theorem countP_rejected_shown (each : ∀ c ∈ coordinates, c.isComplete = true ∧ c.Legible) :
    (coordinates.map (·.shown)).countP (fun line => (Verdict.ofLine line).isRejected) =
      coordinates.countP (!·.isAccepted) := by
  rw [List.countP_map]
  apply List.countP_congr
  intro c inside
  simp only [Function.comp, (each c inside).2.ofLine_shown (each c inside).1,
    Coordinate.isAccepted]
  cases rejection? c.group c.artifact <;> simp [Verdict.isRejected]

theorem findSome?_group_shown (artifact : String)
    (each : ∀ c ∈ coordinates, c.isComplete = true ∧ c.Legible) :
    (coordinates.map (·.shown)).findSome?
        (fun line => (Verdict.ofLine line).groupFor? artifact) =
      (coordinates.find? fun c => c.artifact = artifact && c.isAccepted).map (·.group) := by
  induction coordinates with
  | nil => rfl
  | cons c rest ih =>
    have later := ih fun other member => each other (List.mem_cons_of_mem _ member)
    obtain ⟨complete, legible⟩ := each c List.mem_cons_self
    rw [List.map_cons, List.findSome?_cons, legible.ofLine_shown complete, later, List.find?_cons]
    by_cases same : c.artifact = artifact
    · subst same
      cases accepted : rejection? c.group c.artifact <;>
        simp [Verdict.groupFor?, Coordinate.isAccepted, accepted]
    · cases rejection? c.group c.artifact <;> simp [Verdict.groupFor?, same]

/-- The output of a scan without failures, if all that it lists is legible, is read line by
line: every line is a pair, the pairs that are not accepted are skipped, and besides the seed an
artifact has the group of its first accepted coordinate, or none if there is no such. -/
theorem read_run (source : Source) (options : Scan.Options) (out diag : Sink) (level : Level)
    (readable : source.Readable) (valid : 0 < options.markEvery) (outReliable : out.Reliable)
    (diagReliable : diag.Reliable)
    (legible : ∀ c ∈ Scan.matchesBelow source options source.total, c.Legible) :
    let listed := Scan.matchesBelow source options source.total
    let scanned := Scan.run source options out diag level
    ∃ (written : Bytes) (report : Scan.Report) (ledger : Ledger),
      scanned.out.stored = out.stored ++ written ∧ scanned.result = .ok report ∧
      report.matched = listed.length ∧
      ({} : Ledger).read { bytes := written } = (ledger, none) ∧
      ledger.tally.lines = report.matched ∧ ledger.tally.malformed = 0 ∧
      ledger.tally.skipped = listed.countP (!·.isAccepted) ∧
      ledger.table.get? "spring.boot" = some "org.springframework.boot" ∧
      ∀ artifact, artifact ≠ "spring.boot" → ledger.table.get? artifact =
        (listed.find? fun c => c.artifact = artifact && c.isAccepted).map (·.group) := by
  intro listed scanned
  obtain ⟨stored, result⟩ :=
    Scan.run_reliable source options out diag level readable valid outReliable diagReliable
  have each : ∀ c ∈ listed, c.isComplete = true ∧ c.Legible := fun c member =>
    ⟨Scan.isComplete_of_mem_matchesBelow member, legible c member⟩
  obtain ⟨lines, malformed, skipped⟩ :=
    Ledger.tally_addLines {} (listed.map (·.shown))
  have groups (artifact : String) := Ledger.get?_addLines {} (listed.map (·.shown)) artifact
  simp only [Table.get?_seeded, findSome?_group_shown _ each] at groups
  rw [countP_malformed_shown each] at malformed
  rw [countP_rejected_shown each] at skipped
  rw [List.length_map] at lines
  refine ⟨_, _, _, stored, result, rfl, read_listing {} each, ?_, ?_, ?_, ?_, ?_⟩
  · exact lines.trans (Nat.zero_add _)
  · exact malformed
  · exact skipped.trans (Nat.zero_add _)
  · exact groups "spring.boot"
  · intro artifact other
    rw [groups artifact, if_neg other, Option.none_or]

/-- An artifact listed twice and one that is turned down. -/
theorem read_run_releases :
    let source := Source.ofDocuments "central"
      (Scan.releases ++ [{ fields := [⟨"u", .text "org.apache.camel|camel-docs|3.0"⟩] }])
    let scanned := Scan.run source {} {} {} .warn
    source.Readable ∧ 0 < ({} : Scan.Options).markEvery ∧ ({} : Sink).Reliable ∧
      (∀ c ∈ Scan.matchesBelow source {} source.total, c.Legible) ∧
      ∃ (written : Bytes) (ledger : Ledger), scanned.out.stored = written ∧
        ({} : Ledger).read { bytes := written } = (ledger, none) ∧
        ledger.tally.lines = 4 ∧ ledger.tally.skipped = 1 ∧
        ledger.table.get? "maven-core" = some "org.apache.maven" := by
  intro source scanned
  have readable := Source.ofDocuments_readable "central"
    (Scan.releases ++ [{ fields := [⟨"u", .text "org.apache.camel|camel-docs|3.0"⟩] }])
  have listed : Scan.matchesBelow source {} source.total =
      [⟨"org.apache.maven", "maven-core"⟩, ⟨"org.springframework", "spring-web"⟩,
        ⟨"org.eclipse", "maven-core"⟩, ⟨"org.apache.camel", "camel-docs"⟩] := by
    decide +kernel
  have legible : ∀ c ∈ Scan.matchesBelow source {} source.total, c.Legible := by
    rw [listed]
    decide +kernel
  obtain ⟨written, report, ledger, stored, -, matched, read, lines, -, skipped, -, groups⟩ :=
    read_run source {} {} {} .warn readable (by decide) ⟨rfl, rfl⟩ ⟨rfl, rfl⟩ legible
  rw [listed] at matched skipped groups
  refine ⟨readable, by decide, ⟨rfl, rfl⟩, legible, written, ledger, stored, read, ?_, ?_, ?_⟩
  · exact lines.trans matched
  · rw [skipped]
    decide +kernel
  · rw [groups "maven-core" (by decide)]
    decide +kernel

end Alias

end ArtifactGroups
