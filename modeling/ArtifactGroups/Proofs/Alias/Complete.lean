import ArtifactGroups.Proofs.Alias.Edits
import ArtifactGroups.Proofs.Alias.FirstOffer

/-! Entries with an empty part. No artifact is ever empty, since the empty text has no hyphen, but
nothing is asked of a group: a line with a good artifact behind its separator and nothing in
front of it makes an entry without a group. These are the only such entries. -/
namespace ArtifactGroups.Alias

theorem Offers.artifact_ne_empty {line group artifact : String}
    (offers : Offers line group artifact) : artifact ≠ "" := by
  rintro rfl
  have accepted := offers.accepted
  rw [rejection?_of_no_hyphen (by decide)] at accepted
  contradiction

theorem Offers.group_eq_empty {line group artifact : String} (offers : Offers line group artifact)
    (gap : "" ∈ Text.pieces Coordinate.separator (Text.trim line)) : group = "" := by
  rw [offers.pieces_eq, List.mem_cons, List.mem_singleton] at gap
  rcases gap with empty | empty
  · exact empty.symm
  · exact absurd empty.symm offers.artifact_ne_empty

theorem Verdict.refused_iff {line : String} :
    ((ofLine line).isMalformed = true ∨ (ofLine line).isRejected = true) ↔
      ∀ group artifact, ¬Offers line group artifact := by
  simp only [← ofLine_eq_pair_iff]
  cases ofLine line with
  | malformed => simp [isMalformed]
  | rejected => simp [isRejected]
  | pair => simp [isMalformed, isRejected]

namespace Ledger

theorem tally_refused_iff (ledger : Ledger) (line : String) :
    (ledger.addLine line).tally.malformed + (ledger.addLine line).tally.skipped =
        ledger.tally.malformed + ledger.tally.skipped + 1 ↔
      ∀ group artifact, ¬Offers line group artifact := by
  obtain ⟨-, malformed, skipped⟩ := tally_addLine ledger line
  rw [malformed, skipped, ← Verdict.refused_iff]
  cases Verdict.ofLine line with
  | malformed => simp [Verdict.isMalformed, Verdict.isRejected, Nat.add_right_comm]
  | rejected => simp [Verdict.isMalformed, Verdict.isRejected, Nat.add_assoc]
  | pair => simp [Verdict.isMalformed, Verdict.isRejected]

/-- The entries without a group are the first offers of the empty group. -/
theorem mem_entries_empty_iff (lines : List String) (artifact : String) :
    (artifact, "") ∈ (({} : Ledger).addLines lines).table.entries ↔
      FirstOffer lines artifact "" := by
  rw [← Table.lookup_eq_some_iff_mem (Table.distinct _), ← Table.get?, get?_addLines,
    ← firstOffer_iff, Table.get?_seeded]
  by_cases seed : artifact = "spring.boot"
  · subst seed
    have noOffer : ∀ line ∈ lines, (Verdict.ofLine line).groupFor? "spring.boot" = none := by
      intro line _
      refine groupFor?_eq_none_iff.2 fun group offers => ?_
      have accepted := offers.accepted
      rw [rejection?_seed] at accepted
      contradiction
    rw [List.findSome?_eq_none_iff.2 noOffer]
    simp
  · rw [if_neg seed, Option.none_or]

/-- Whatever a new ledger is fed, no artifact is empty. The entries without a group are those whose
first offer comes from a line that has nothing in front of its separator, so there is none
exactly if no line makes such an offer. A line with an empty part counts as malformed or skipped
unless it makes such an offer. -/
theorem takeAll_complete_iff (feeds : List Feed) :
    let lines := feeds.flatMap Feed.lines
    let entries := (({} : Ledger).takeAll feeds).table.entries
    (∀ entry ∈ entries, entry.1 ≠ "") ∧
    (∀ artifact, (artifact, "") ∈ entries ↔ FirstOffer lines artifact "") ∧
    ((∀ entry ∈ entries, entry.1 ≠ "" ∧ entry.2 ≠ "") ↔
      ∀ artifact, ¬FirstOffer lines artifact "") ∧
    ∀ (ledger : Ledger) (line : String),
      "" ∈ Text.pieces Coordinate.separator (Text.trim line) →
        ((ledger.addLine line).tally.malformed + (ledger.addLine line).tally.skipped =
            ledger.tally.malformed + ledger.tally.skipped + 1 ↔
          ∀ artifact, ¬Offers line "" artifact) := by
  intro lines entries
  have read : entries = (({} : Ledger).addLines lines).table.entries := by
    simp only [entries, takeAll_eq, lines]
  have artifacts : ∀ entry ∈ entries, entry.1 ≠ "" := by
    intro entry member
    rw [read] at member
    rcases mem_entries_addLines member with seed | ⟨line, -, offers⟩
    · have seeds : ∀ entry ∈ Table.seeded.entries, entry.1 ≠ "" := by decide
      exact seeds entry seed
    · exact offers.artifact_ne_empty
  have empties (artifact : String) : (artifact, "") ∈ entries ↔ FirstOffer lines artifact "" := by
    rw [read]
    exact mem_entries_empty_iff lines artifact
  refine ⟨artifacts, empties, ?_, ?_⟩
  · constructor
    · intro complete artifact offered
      exact (complete _ ((empties artifact).2 offered)).2 rfl
    · rintro none ⟨artifact, group⟩ member
      refine ⟨artifacts _ member, ?_⟩
      rintro rfl
      exact none artifact ((empties artifact).1 member)
  · intro ledger line gap
    rw [tally_refused_iff]
    constructor
    · exact fun none => none ""
    · intro none group artifact offers
      obtain rfl := offers.group_eq_empty gap
      exact none artifact offers

/-- A stream whose lines have empty parts, each in a way that is not an offer. -/
theorem takeAll_complete_iff_gaps :
    let feeds : List Feed := [.stream { bytes := Text.utf8 "org.osgi|osgi-cm\n|osgi\n" },
      .line "org.osgi|", .line "||"]
    let entries := (({} : Ledger).takeAll feeds).table.entries
    (∀ artifact, ¬FirstOffer (feeds.flatMap Feed.lines) artifact "") ∧
      (∀ entry ∈ entries, entry.1 ≠ "" ∧ entry.2 ≠ "") ∧
      "" ∈ Text.pieces Coordinate.separator (Text.trim "|osgi") ∧
      (({} : Ledger).addLine "|osgi").tally = ⟨1, 0, 1, 0, 0⟩ ∧
      ∀ artifact, ¬Offers "|osgi" "" artifact := by
  intro feeds entries
  obtain ⟨-, empties, complete, refused⟩ := takeAll_complete_iff feeds
  have listed : entries =
      [("osgi-cm", "org.osgi"), ("spring.boot", "org.springframework.boot")] := by decide +kernel
  have none (artifact : String) : ¬FirstOffer (feeds.flatMap Feed.lines) artifact "" := by
    rw [← empties]
    intro member
    have inside : (artifact, "") ∈ entries := member
    simp [listed] at inside
  have gap : "" ∈ Text.pieces Coordinate.separator (Text.trim "|osgi") := by decide +kernel
  have tally : (({} : Ledger).addLine "|osgi").tally = ⟨1, 0, 1, 0, 0⟩ := by decide +kernel
  exact ⟨none, complete.2 none, gap, tally, (refused {} "|osgi" gap).1 (by rw [tally]; rfl)⟩

/-- A line without a group is accepted, and its artifact is mapped to nothing. -/
theorem empty_group_accepted :
    let ledger := ({} : Ledger).takeAll [.line "|jetty-server"]
    ledger.table.get? "jetty-server" = some "" ∧ ledger.tally = ⟨1, 0, 0, 0, 1⟩ ∧
      ¬∀ entry ∈ ledger.table.entries, entry.1 ≠ "" ∧ entry.2 ≠ "" := by
  decide +kernel

end Ledger

end ArtifactGroups.Alias
