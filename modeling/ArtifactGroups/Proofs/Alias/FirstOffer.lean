import ArtifactGroups.Proofs.Alias.Bookkeeping
import ArtifactGroups.Proofs.Alias.Table
import ArtifactGroups.Proofs.Coordinate

/-! Which group an artifact gets. A line offers a group by itself, whatever the table holds, and
the first offer for an artifact decides unless the table has the artifact from the start. No
line ever offers a group for the seed. -/
namespace ArtifactGroups.Alias

/-- Blanks at its ends aside, the line is `group|artifact` and has no other separator. -/
structure Holds (line group artifact : String) : Prop where
  written : Text.trim line = (⟨group, artifact⟩ : Coordinate).shown
  once : (Text.trim line).toList.count Coordinate.separator = 1

/-- The line holds a pair from which an alias may be made. -/
structure Offers (line group artifact : String) : Prop extends Holds line group artifact where
  accepted : rejection? group artifact = none

/-- Some line offers this group, and no line before it offers any group for the artifact. -/
def FirstOffer (lines : List String) (artifact group : String) : Prop :=
  ∃ earlier line later, lines = earlier ++ line :: later ∧ Offers line group artifact ∧
    ∀ other ∈ earlier, ∀ rival, ¬Offers other rival artifact

variable {line group artifact : String}

theorem Holds.pieces_eq (holds : Holds line group artifact) :
    Text.pieces Coordinate.separator (Text.trim line) = [group, artifact] := by
  have once := holds.once
  simp only [holds.written, Coordinate.toList_shown, List.count_append,
    List.count_cons_self] at once
  have groupFree : Coordinate.separator ∉ group.toList := List.count_eq_zero.1 (by omega)
  have artifactFree : Coordinate.separator ∉ artifact.toList := List.count_eq_zero.1 (by omega)
  rw [holds.written]
  exact Coordinate.pieces_shown (c := ⟨group, artifact⟩) groupFree artifactFree

theorem Holds.ofLine_eq (holds : Holds line group artifact) :
    Verdict.ofLine line =
      match rejection? group artifact with
      | some reason => .rejected group artifact reason
      | none => .pair group artifact := by
  cases rejected : rejection? group artifact <;>
    simp only [Verdict.ofLine, holds.pieces_eq, rejected]

theorem holds_of_isPair (pair : Verdict.isPair line = true) :
    Holds line (Verdict.groupIn line) (Verdict.artifactIn line) := by
  have once : (Text.trim line).toList.count Coordinate.separator = 1 := by
    simpa [Verdict.isPair] using pair
  refine ⟨?_, once⟩
  have member : Coordinate.separator ∈ (Text.trim line).toList :=
    List.count_pos_iff.1 (by omega)
  exact (Text.before_append_behind member).symm

theorem ofLine_eq_pair_iff : Verdict.ofLine line = .pair group artifact ↔
    Offers line group artifact := by
  constructor
  · intro judged
    cases pair : Verdict.isPair line with
    | false => simp [Verdict.ofLine_eq, pair] at judged
    | true =>
      have holds := holds_of_isPair pair
      rw [holds.ofLine_eq] at judged
      cases rejected : rejection? (Verdict.groupIn line) (Verdict.artifactIn line) with
      | some reason => simp [rejected] at judged
      | none =>
        simp only [rejected, Verdict.pair.injEq] at judged
        obtain ⟨rfl, rfl⟩ := judged
        exact ⟨holds, rejected⟩
  · intro offers
    simp only [offers.ofLine_eq, offers.accepted]

theorem groupFor?_eq_some_iff :
    (Verdict.ofLine line).groupFor? artifact = some group ↔ Offers line group artifact := by
  rw [← ofLine_eq_pair_iff]
  cases Verdict.ofLine line with
  | malformed => simp [Verdict.groupFor?]
  | rejected => simp [Verdict.groupFor?]
  | pair group own =>
    by_cases same : own = artifact
    · simp [Verdict.groupFor?, same]
    · simp [Verdict.groupFor?, same]

theorem groupFor?_eq_none_iff : (Verdict.ofLine line).groupFor? artifact = none ↔
    ∀ group, ¬Offers line group artifact := by
  simp only [← groupFor?_eq_some_iff, Option.eq_none_iff_forall_ne_some, ne_eq]

theorem firstOffer_iff {lines : List String} :
    (lines.findSome? fun line => (Verdict.ofLine line).groupFor? artifact) = some group ↔
      FirstOffer lines artifact group := by
  simp only [List.findSome?_eq_some_iff, groupFor?_eq_some_iff, groupFor?_eq_none_iff, FirstOffer]

theorem rejection?_of_no_hyphen {artifact : String}
    (hyphenless : Text.contains artifact "-" = false) (group : String) :
    rejection? group artifact = some .noHyphen := by
  have applies : Rejection.noHyphen.applies group artifact = true := by
    simp [Rejection.applies, hyphenless]
  simp [rejection?, Rejection.all, applies]

/-- The seed has no hyphen, so no pair with it is accepted. -/
theorem rejection?_seed (group : String) : rejection? group "spring.boot" = some .noHyphen :=
  rejection?_of_no_hyphen (by decide) group

namespace Ledger

theorem mem_entries_addLine {ledger : Ledger} {entry : String × String}
    (member : entry ∈ (ledger.addLine line).table.entries) :
    entry ∈ ledger.table.entries ∨ Offers line entry.2 entry.1 := by
  unfold addLine at member
  cases judged : Verdict.ofLine line with
  | malformed => exact .inl (by simpa [judged, note] using member)
  | rejected => exact .inl (by simpa [judged, note] using member)
  | pair group artifact =>
    simp only [judged, note] at member
    split at member
    next => exact .inl member
    next =>
      rcases Table.mem_of_mem_insertEntry member with rfl | old
      · exact .inr (ofLine_eq_pair_iff.1 judged)
      · exact .inl old

theorem mem_entries_addLines {ledger : Ledger} {lines : List String} {entry : String × String}
    (member : entry ∈ (ledger.addLines lines).table.entries) :
    entry ∈ ledger.table.entries ∨ ∃ line ∈ lines, Offers line entry.2 entry.1 := by
  induction lines generalizing ledger with
  | nil => exact .inl member
  | cons line rest ih =>
    rw [addLines, List.foldl_cons, ← addLines] at member
    rcases ih member with before | ⟨later, inside, offers⟩
    · apply (mem_entries_addLine before).imp_right
      exact fun offers => ⟨line, List.mem_cons_self, offers⟩
    · exact .inr ⟨later, List.mem_cons_of_mem _ inside, offers⟩

theorem addLine_seed {ledger : Ledger} (holds : Holds line group "spring.boot") :
    ledger.addLine line = { ledger with
      tally.lines := ledger.tally.lines + 1
      tally.skipped := ledger.tally.skipped + 1 } := by
  simp only [addLine, holds.ofLine_eq, rejection?_seed, note]

/-- After any lines an artifact has the group that it had at the start, or else the first group
that a line offers for it, or else none. All entries are of one of these kinds, and the seed of
a new ledger stays as it is, whatever the ledger is fed. -/
theorem get?_addLines_firstOffer (start : Table) (lines : List String) :
    let table := (({ table := start } : Ledger).addLines lines).table
    (∀ artifact group, table.get? artifact = some group ↔
      start.get? artifact = some group ∨
        start.get? artifact = none ∧ FirstOffer lines artifact group) ∧
    (∀ artifact, table.get? artifact = none ↔
      start.get? artifact = none ∧ ∀ line ∈ lines, ∀ group, ¬Offers line group artifact) ∧
    (∀ entry ∈ table.entries,
      entry ∈ start.entries ∨ ∃ line ∈ lines, Offers line entry.2 entry.1) ∧
    (∀ feeds : List Feed, (({} : Ledger).takeAll feeds).table.get? "spring.boot" =
      some "org.springframework.boot") ∧
    ∀ (ledger : Ledger) (line group : String), Holds line group "spring.boot" →
      ledger.addLine line = { ledger with
        tally.lines := ledger.tally.lines + 1
        tally.skipped := ledger.tally.skipped + 1 } := by
  intro table
  have found (artifact : String) := get?_addLines { table := start } lines artifact
  refine ⟨?_, ?_, fun entry => mem_entries_addLines, ?_, fun ledger line group => addLine_seed⟩
  · intro artifact group
    rw [found, ← firstOffer_iff]
    cases start.get? artifact <;> simp
  · intro artifact
    rw [found, Option.or_eq_none_iff]
    simp only [List.findSome?_eq_none_iff, groupFor?_eq_none_iff]
  · intro feeds
    rw [takeAll_eq]
    apply get?_addLines_of_some
    simp [Table.get?_seeded]

/-- A second group for an artifact, a rival of the seed, and a pair that is turned down. -/
theorem get?_addLines_firstOffer_rivals :
    let lines := ["org.apache.camel|camel-docs", " org.apache.commons|commons-core \r",
      "com.fasterxml.jackson|commons-core", "org.other|spring.boot"]
    let table := (({} : Ledger).addLines lines).table
    Holds "org.other|spring.boot" "org.other" "spring.boot" ∧
      table.get? "commons-core" = some "org.apache.commons" ∧
      table.get? "camel-docs" = none ∧
      (({} : Ledger).addLine "org.other|spring.boot").tally = ⟨1, 0, 1, 0, 0⟩ := by
  intro lines table
  obtain ⟨given, absent, -, -, seed⟩ := get?_addLines_firstOffer .seeded lines
  have rival : Holds "org.other|spring.boot" "org.other" "spring.boot" :=
    ⟨by decide +kernel, by decide +kernel⟩
  refine ⟨rival, (given _ _).2 (.inr ⟨by decide +kernel, ?_⟩),
    (absent _).2 ⟨by decide +kernel, ?_⟩, ?_⟩
  · have first : Offers " org.apache.commons|commons-core \r" "org.apache.commons" "commons-core" :=
      ofLine_eq_pair_iff.1 (by decide +kernel)
    refine ⟨["org.apache.camel|camel-docs"], _, _, rfl, first, fun other member => ?_⟩
    obtain rfl := List.mem_singleton.1 member
    exact groupFor?_eq_none_iff.1 (by decide +kernel)
  · have none : ∀ line ∈ lines, (Verdict.ofLine line).groupFor? "camel-docs" = none := by
      decide +kernel
    exact fun line member => groupFor?_eq_none_iff.1 (none line member)
  · rw [seed {} _ _ rival]

end Ledger

end ArtifactGroups.Alias
