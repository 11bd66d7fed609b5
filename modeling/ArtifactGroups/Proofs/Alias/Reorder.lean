import ArtifactGroups.Proofs.Alias.FirstOffer
import Mathlib.Data.Finset.Card

/-! Reordering the lines changes which group an artifact gets, and nothing else. Whether a line is
accepted or collides depends on the lines before it, but how many are accepted does not: as many
as there are artifacts with an offer that the table lacks at the start. -/
namespace ArtifactGroups.Alias

def Verdict.artifact? : Verdict → Option String
  | .pair _ artifact => some artifact
  | _ => none

theorem Verdict.isSome_artifact?_ofLine (line : String) :
    (ofLine line).artifact?.isSome =
      (isPair line && (rejection? (groupIn line) (artifactIn line)).isNone) := by
  rw [ofLine_eq]
  cases isPair line with
  | false => rfl
  | true => cases rejection? (groupIn line) (artifactIn line) <;> rfl

theorem Verdict.isSome_groupFor?_iff {verdict : Verdict} {artifact : String} :
    (verdict.groupFor? artifact).isSome = true ↔ verdict.artifact? = some artifact := by
  cases verdict with
  | malformed => simp [groupFor?, artifact?]
  | rejected => simp [groupFor?, artifact?]
  | pair group own => by_cases same : own = artifact <;> simp [groupFor?, artifact?, same]

theorem Table.contains_insert (table : Table) (artifact group other : String) :
    (table.insert artifact group).contains other = (other == artifact || table.contains other) := by
  rw [contains, get?_insert, contains]
  by_cases same : other = artifact <;> simp [same]

namespace Ledger

/-- The artifacts that a table lacks and that some line offers a group for. -/
def newArtifacts (table : Table) (lines : List String) : Finset String :=
  (lines.filterMap fun line => (Verdict.ofLine line).artifact?).toFinset.filter fun artifact =>
    table.contains artifact = false

theorem mem_newArtifacts {table : Table} {lines : List String} {artifact : String} :
    artifact ∈ newArtifacts table lines ↔
      (∃ line ∈ lines, (Verdict.ofLine line).artifact? = some artifact) ∧
        table.contains artifact = false := by
  simp [newArtifacts]

theorem newArtifacts_cons_of_known {table : Table} {line : String} (lines : List String)
    (known : ∀ artifact, (Verdict.ofLine line).artifact? = some artifact →
      table.contains artifact = true) :
    newArtifacts table (line :: lines) = newArtifacts table lines := by
  ext artifact
  rw [mem_newArtifacts, mem_newArtifacts, List.exists_mem_cons_iff]
  constructor
  · rintro ⟨here | later, absent⟩
    · simp [known artifact here] at absent
    · exact ⟨later, absent⟩
  · exact fun ⟨later, absent⟩ => ⟨.inr later, absent⟩

theorem newArtifacts_cons_of_new {table : Table} {line group artifact : String}
    (lines : List String) (judged : Verdict.ofLine line = .pair group artifact)
    (absent : table.contains artifact = false) :
    newArtifacts table (line :: lines) =
      insert artifact (newArtifacts (table.insert artifact group) lines) := by
  ext other
  rw [Finset.mem_insert, mem_newArtifacts, mem_newArtifacts, List.exists_mem_cons_iff, judged,
    Verdict.artifact?, Option.some.injEq, Table.contains_insert]
  by_cases same : other = artifact
  · simp [same, absent]
  · simp [same, Ne.symm same]

theorem notMem_newArtifacts_insert (table : Table) (artifact group : String)
    (lines : List String) : artifact ∉ newArtifacts (table.insert artifact group) lines := by
  rw [mem_newArtifacts, Table.contains_insert]
  simp

/-- Every new artifact is accepted once, with whichever line comes first. -/
theorem accepted_addLines (ledger : Ledger) (lines : List String) :
    (ledger.addLines lines).tally.accepted =
      ledger.tally.accepted + (newArtifacts ledger.table lines).card := by
  induction lines generalizing ledger with
  | nil => simp [addLines, newArtifacts]
  | cons line rest ih =>
    rw [addLines, List.foldl_cons, ← addLines, ih]
    unfold addLine
    cases judged : Verdict.ofLine line with
    | malformed =>
      rw [newArtifacts_cons_of_known rest (by simp [judged, Verdict.artifact?])]
      rfl
    | rejected =>
      rw [newArtifacts_cons_of_known rest (by simp [judged, Verdict.artifact?])]
      rfl
    | pair group artifact =>
      simp only [note]
      split
      next known =>
        have there : ∀ other, (Verdict.ofLine line).artifact? = some other →
            ledger.table.contains other = true := by
          simp [judged, Verdict.artifact?, known]
        rw [newArtifacts_cons_of_known rest there]
      next absent =>
        rw [newArtifacts_cons_of_new rest judged (by simpa using absent),
          Finset.card_insert_of_notMem (notMem_newArtifacts_insert _ _ _ _)]
        simp only
        omega

theorem contains_addLines (ledger : Ledger) (lines : List String) (artifact : String) :
    (ledger.addLines lines).table.contains artifact = true ↔
      ledger.table.contains artifact = true ∨
        ∃ line ∈ lines, (Verdict.ofLine line).artifact? = some artifact := by
  simp only [Table.contains, get?_addLines, Option.isSome_or, Bool.or_eq_true,
    List.findSome?_isSome_iff, Verdict.isSome_groupFor?_iff]

theorem collisions_addLines (ledger : Ledger) (lines : List String) :
    (ledger.addLines lines).tally.collisions + (ledger.addLines lines).tally.accepted =
      ledger.tally.collisions + ledger.tally.accepted +
        lines.countP fun line => (Verdict.ofLine line).artifact?.isSome := by
  induction lines generalizing ledger with
  | nil => rfl
  | cons line rest ih =>
    rw [addLines, List.foldl_cons, ← addLines, ih, List.countP_cons]
    unfold addLine
    cases Verdict.ofLine line with
    | malformed => rfl
    | rejected => rfl
    | pair group artifact =>
      simp only [note, Verdict.artifact?, Option.isSome_some, if_true]
      split <;> simp only <;> omega

theorem table_addLines_of_known {ledger : Ledger} {lines : List String}
    (known : ∀ line ∈ lines, ∀ artifact, (Verdict.ofLine line).artifact? = some artifact →
      ledger.table.contains artifact = true) :
    (ledger.addLines lines).table = ledger.table := by
  induction lines generalizing ledger with
  | nil => rfl
  | cons line rest ih =>
    have kept : (ledger.addLine line).table = ledger.table := by
      have here := known line List.mem_cons_self
      unfold addLine
      cases judged : Verdict.ofLine line with
      | malformed => rfl
      | rejected => rfl
      | pair group artifact =>
        have there : ledger.table.contains artifact = true := here artifact (by rw [judged]; rfl)
        simp only [note, there, if_true]
    rw [addLines, List.foldl_cons, ← addLines, ih, kept]
    rw [kept]
    exact fun other member => known other (List.mem_cons_of_mem _ member)

theorem newArtifacts_perm (table : Table) {lines other : List String} (perm : lines.Perm other) :
    newArtifacts table lines = newArtifacts table other := by
  ext artifact
  simp only [mem_newArtifacts, perm.mem_iff]

theorem tally_addLines_perm (ledger : Ledger) {lines other : List String}
    (perm : lines.Perm other) :
    (ledger.addLines lines).tally = (ledger.addLines other).tally := by
  obtain ⟨counted, malformed, skipped⟩ := ledger.tally_addLines lines
  obtain ⟨counted', malformed', skipped'⟩ := ledger.tally_addLines other
  have accepted := ledger.accepted_addLines lines
  have accepted' := ledger.accepted_addLines other
  have pairs := ledger.collisions_addLines lines
  have pairs' := ledger.collisions_addLines other
  rw [perm.length_eq] at counted
  rw [perm.countP_eq] at malformed skipped pairs
  rw [newArtifacts_perm _ perm] at accepted
  have collisions : (ledger.addLines lines).tally.collisions =
      (ledger.addLines other).tally.collisions := by omega
  exact Tally.ext (counted.trans counted'.symm) (malformed.trans malformed'.symm)
    (skipped.trans skipped'.symm) collisions (accepted.trans accepted'.symm)

theorem findSome?_perm {lines other : List String} {artifact group : String}
    (perm : lines.Perm other)
    (unanimous : ∀ line ∈ lines, ∀ rival, Offers line rival artifact → rival = group) :
    (lines.findSome? fun line => (Verdict.ofLine line).groupFor? artifact) =
      other.findSome? fun line => (Verdict.ofLine line).groupFor? artifact := by
  cases first : lines.findSome? fun line => (Verdict.ofLine line).groupFor? artifact with
  | none =>
    symm
    rw [List.findSome?_eq_none_iff] at first ⊢
    exact fun line member => first line (perm.mem_iff.2 member)
  | some rival =>
    obtain ⟨line, member, offers⟩ := List.exists_of_findSome?_eq_some first
    have same := unanimous line member rival (groupFor?_eq_some_iff.1 offers)
    cases second : other.findSome? fun line => (Verdict.ofLine line).groupFor? artifact with
    | none =>
      rw [List.findSome?_eq_none_iff] at second
      rw [second line (perm.mem_iff.1 member)] at offers
      contradiction
    | some other =>
      obtain ⟨later, inside, given⟩ := List.exists_of_findSome?_eq_some second
      rw [same, unanimous later (perm.mem_iff.2 inside) other (groupFor?_eq_some_iff.1 given)]

theorem addLines_of_known {ledger : Ledger} {lines : List String}
    (known : ∀ line ∈ lines, ∀ artifact, (Verdict.ofLine line).artifact? = some artifact →
      ledger.table.contains artifact = true) :
    (ledger.addLines lines).table = ledger.table ∧
      (ledger.addLines lines).tally.accepted = ledger.tally.accepted ∧
      (ledger.addLines lines).tally.collisions = ledger.tally.collisions + lines.countP fun line =>
        (Text.trim line).toList.count Coordinate.separator = 1 ∧
          (rejection? (Verdict.groupIn line) (Verdict.artifactIn line)).isNone := by
  have nothingNew : newArtifacts ledger.table lines = ∅ := by
    apply Finset.eq_empty_of_forall_notMem
    intro artifact new
    obtain ⟨⟨line, member, offered⟩, absent⟩ := mem_newArtifacts.1 new
    rw [known line member artifact offered] at absent
    contradiction
  have accepted : (ledger.addLines lines).tally.accepted = ledger.tally.accepted := by
    rw [accepted_addLines, nothingNew, Finset.card_empty, Nat.add_zero]
  have pairs := ledger.collisions_addLines lines
  simp only [Verdict.isSome_artifact?_ofLine, Verdict.isPair] at pairs
  refine ⟨table_addLines_of_known known, accepted, ?_⟩
  simp only [Bool.decide_and, Bool.decide_eq_true]
  omega

/-- Lines in another order give the same counts and the same artifacts, and an artifact gets
another group only if it was not there before and the lines disagree about it. The same lines
once more change no entry: they collide, as far as their pairs are not turned down. -/
theorem addLines_reordered (ledger : Ledger) (lines : List String) :
    (∀ other : List String, lines.Perm other →
      let first := ledger.addLines lines
      let second := ledger.addLines other
      first.tally = second.tally ∧
      (∀ artifact, first.table.contains artifact = second.table.contains artifact) ∧
      ∀ artifact, (ledger.table.contains artifact = true ∨
          ∃ group, ∀ line ∈ lines, ∀ rival, Offers line rival artifact → rival = group) →
        first.table.get? artifact = second.table.get? artifact) ∧
    let once := ledger.addLines lines
    let twice := once.addLines lines
    twice.table = once.table ∧ twice.tally.accepted = once.tally.accepted ∧
      twice.tally.collisions = once.tally.collisions + lines.countP fun line =>
        (Text.trim line).toList.count Coordinate.separator = 1 ∧
          (rejection? (Verdict.groupIn line) (Verdict.artifactIn line)).isNone := by
  refine ⟨fun other perm => ⟨ledger.tally_addLines_perm perm, ?_, ?_⟩, ?_⟩
  · intro artifact
    rw [Bool.eq_iff_iff, contains_addLines, contains_addLines]
    simp only [perm.mem_iff]
  · rintro artifact (known | ⟨group, unanimous⟩)
    · obtain ⟨group, entry⟩ := Table.contains_iff.1 known
      rw [get?_addLines_of_some entry, get?_addLines_of_some entry]
    · rw [get?_addLines, get?_addLines, findSome?_perm perm unanimous]
  · exact addLines_of_known fun line member artifact offered =>
      (contains_addLines ledger lines artifact).2 (.inr ⟨line, member, offered⟩)

/-- Two lines disagree about an artifact, one names an artifact of the start, and another one
stands alone. -/
theorem addLines_reordered_rivals :
    let ledger : Ledger := { table := { entries := [("m-n", "org.m")] } }
    let lines := ["org.a|x-y", "org.b|x-y", "org.c|m-n", " org.d|p-q \r", "a|b|c"]
    let first := ledger.addLines lines
    let second := ledger.addLines lines.reverse
    lines.Perm lines.reverse ∧
      ledger.table.contains "m-n" = true ∧
      (∀ line ∈ lines, ∀ rival, Offers line rival "p-q" → rival = "org.d") ∧
      first.tally = ⟨5, 1, 0, 2, 2⟩ ∧ second.tally = ⟨5, 1, 0, 2, 2⟩ ∧
      second.table.get? "m-n" = some "org.m" ∧ second.table.get? "p-q" = some "org.d" ∧
      first.table.get? "x-y" ≠ second.table.get? "x-y" := by
  intro ledger lines first second
  have perm : lines.Perm lines.reverse := (List.reverse_perm lines).symm
  obtain ⟨tally, -, same⟩ := (addLines_reordered ledger lines).1 lines.reverse perm
  have known : ledger.table.contains "m-n" = true := by decide +kernel
  have alone : ∀ line ∈ lines, ∀ rival, Offers line rival "p-q" → rival = "org.d" := by
    have offered : ∀ line ∈ lines, ∀ rival ∈ (Verdict.ofLine line).groupFor? "p-q",
        rival = "org.d" := by decide +kernel
    exact fun line member rival offers =>
      offered line member rival (groupFor?_eq_some_iff.2 offers)
  have counted : first.tally = ⟨5, 1, 0, 2, 2⟩ := by decide +kernel
  refine ⟨perm, known, alone, counted, tally.symm.trans counted, ?_, ?_, by decide +kernel⟩
  · exact (same "m-n" (.inl known)).symm.trans (by decide +kernel)
  · exact (same "p-q" (.inr ⟨"org.d", alone⟩)).symm.trans (by decide +kernel)

end Ledger

end ArtifactGroups.Alias
