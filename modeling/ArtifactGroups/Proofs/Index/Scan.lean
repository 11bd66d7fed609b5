import ArtifactGroups.Proofs.Index.ReadBack
import ArtifactGroups.Proofs.Scan.Diagnostics

/-! Scanning an index finds what scanning its documents in memory finds. The index gives the
fields of a document in another order, but the first text value of a name stays the first. -/
namespace ArtifactGroups.Index

/-- Records held in memory, with the fields as they were added. -/
def inMemory (location : String) (records : List Record) : Source :=
  .ofDocuments location (records.mapIdx fun ordinal record => ⟨ordinal, namedFields record⟩)

@[simp] theorem total_inMemory (location : String) (records : List Record) :
    (inMemory location records).total = records.length := by
  simp [inMemory, Source.ofDocuments]

theorem fetch_inMemory (location : String) {records : List Record} {ordinal : Nat}
    {record : Record} (found : records[ordinal]? = some record) :
    (inMemory location records).fetch ordinal = .ok ⟨ordinal, namedFields record⟩ := by
  simp [inMemory, Source.ofDocuments, List.getElem?_mapIdx, found]

theorem Snapshot.Holds.fetch {snapshot : Snapshot} {segments : List (List Record)}
    (holds : snapshot.Holds segments) {ordinal : Nat} (below : ordinal < snapshot.source.total) :
    ∃ record fields, segments.flatten[ordinal]? = some record ∧ GroupedByName record fields ∧
      snapshot.source.fetch ordinal = .ok ⟨ordinal, fields⟩ := by
  have word : (UInt64.ofNat ordinal).toNat = ordinal :=
    UInt64.toNat_ofNat_of_lt' (Nat.lt_trans below snapshot.total.toNat_lt)
  have inside : UInt64.ofNat ordinal < snapshot.total := by
    rw [UInt64.lt_iff_toNat_lt, word]
    exact below
  have held := holds.document _ inside
  rw [word] at held
  exact held

/-- A scan meets the same matches in the index and in memory. -/
theorem Snapshot.Holds.sameAt {snapshot : Snapshot} {segments : List (List Record)}
    (holds : snapshot.Holds segments) (location : String) (options : Scan.Options) {ordinal : Nat}
    (below : ordinal < snapshot.source.total) :
    Scan.SameAt (inMemory location segments.flatten) options snapshot.source options ordinal := by
  obtain ⟨record, fields, found, grouped, stored⟩ := holds.fetch below
  have coordinate := Document.coordinate?_congr (grouped.text?_eq ordinal) options.fields
  rw [Scan.SameAt, fetch_inMemory location found, stored]
  simp only [Except.map, Scan.Options.match?, coordinate]

/-- Scanning the index of a draft without conflicting types comes to the same as scanning its
documents in memory, the largest batch first. For a look-up and for the extraction of a coordinate
the documents are the same. -/
theorem run_indexed (library : Library) (lawful : library.Lawful) (steps : List Step)
    (volume : Volume) (path : String) (place : Place)
    (there : volume.directory? path = some place)
    (free : volume.entryAt? (place ++ [Volume.manifestName]) = none)
    (consistent : Consistent (Step.records steps))
    (named : ∀ entry ∈ (Step.records steps).flatten, library.takesName entry.1 = true)
    (distinct : ((Step.batches steps).map List.length).Nodup)
    (small : ∀ batch ∈ Step.batches steps, batch.length < 2 ^ 32)
    (options : Scan.Options) (valid : 0 < options.markEvery) (location : String)
    (out heard diag : Sink) (level level' : Level) (reliable : heard.Reliable)
    (reliable' : diag.Reliable) :
    ∃ written snapshot ordered,
      volume.writeIndex (Draft.ofSteps steps) path library = .ok written ∧
      written.openIndex path library = .ok snapshot ∧ LargestFirst (Step.batches steps) ordered ∧
      (Scan.run (inMemory location ordered.flatten) options out heard level).SameFindings
        (Scan.run snapshot.source options out diag level') ∧
      ∀ ordinal < snapshot.source.total, ∃ document added,
        snapshot.source.fetch ordinal = .ok document ∧
          (inMemory location ordered.flatten).fetch ordinal = .ok added ∧
          (∀ name, document.text? name = added.text? name) ∧
          ∀ names, document.coordinate? names = added.coordinate? names := by
  rw [← Draft.batches_ofSteps] at distinct small ⊢
  rw [← Draft.records_ofSteps] at named
  obtain ⟨written, done⟩ := (writeIndex_ok_iff library steps there free).2 consistent
  obtain ⟨snapshot, ordered, opened, largest, holds⟩ :=
    Draft.holds_written lawful done named distinct small
  have total : (inMemory location ordered.flatten).total = snapshot.source.total := by
    rw [total_inMemory, ← holds.total]
    rfl
  have same (ordinal : Nat) (below : ordinal < (inMemory location ordered.flatten).total) :=
    holds.sameAt location options (total ▸ below)
  refine ⟨written, snapshot, ordered, done, opened, largest, ?_, fun ordinal below => ?_⟩
  · have follows := Scan.run_follows out diag level level' valid valid total same reliable
    exact follows.resolve_right fun cut => cut.unreliable reliable'
  · obtain ⟨record, fields, found, grouped, stored⟩ := holds.fetch below
    exact ⟨_, _, stored, fetch_inMemory location found, grouped.text?_eq ordinal,
      Document.coordinate?_congr (grouped.text?_eq ordinal)⟩

/-- A composite field with two values around another field. Only the first value is allowed. -/
theorem run_indexed_doubled_field :
    let first : Record := [("m", .number 1318447), ("g", .text "org.osgi.core")]
    let doubled : Record :=
      [("u", .text "org.osgi.core|z"), ("a", .text "x"), ("u", .text "net|y")]
    let steps : List Step := [.add first, .close, .add doubled, .add []]
    let volume : Volume := { entries := [(["home", "idx"], .directory)] }
    let library : Library := .observed
    library.Lawful ∧ volume.directory? "idx" = some ["home", "idx"] ∧
      volume.entryAt? (["home", "idx"] ++ [Volume.manifestName]) = none ∧
      Consistent (Step.records steps) ∧
      (∀ entry ∈ (Step.records steps).flatten, library.takesName entry.1 = true) ∧
      ((Step.batches steps).map List.length).Nodup ∧
      (∀ batch ∈ Step.batches steps, batch.length < 2 ^ 32) ∧
      0 < ({} : Scan.Options).markEvery ∧ ({} : Sink).Reliable ∧
      ∃ written snapshot, volume.writeIndex (Draft.ofSteps steps) "idx" library = .ok written ∧
        written.openIndex "idx" library = .ok snapshot ∧
        (Scan.run snapshot.source {} {} {} .warn).fetched = 3 ∧
        (Scan.run snapshot.source {} {} {} .warn).out.stored =
          Text.utf8 "org.osgi.core|z\n" := by
  intro first doubled steps volume library
  have lawful : library.Lawful := Library.lawful_observed _ _
  have there : volume.directory? "idx" = some ["home", "idx"] := by decide +kernel
  have free : volume.entryAt? (["home", "idx"] ++ [Volume.manifestName]) = none := by
    decide +kernel
  have consistent : Consistent (Step.records steps) := by decide +kernel
  have named : ∀ entry ∈ (Step.records steps).flatten, library.takesName entry.1 = true := by
    decide +kernel
  have distinct : ((Step.batches steps).map List.length).Nodup := by decide +kernel
  have small : ∀ batch ∈ Step.batches steps, batch.length < 2 ^ 32 := by decide +kernel
  have valid : 0 < ({} : Scan.Options).markEvery := by decide
  have reliable : ({} : Sink).Reliable := ⟨rfl, rfl⟩
  obtain ⟨written, snapshot, ordered, done, opened, largest, same, -⟩ :=
    run_indexed library lawful steps volume "idx" ["home", "idx"] there free consistent named
      distinct small {} valid "memory" {} {} {} .warn .warn reliable reliable
  have order : ordered = [[doubled, []], [first]] := by
    refine largest.unique ⟨?_, by simp⟩
    exact List.Perm.swap _ _ _
  rw [order] at same
  have fetched : (Scan.run (inMemory "memory" [[doubled, []], [first]].flatten) {} {} {}
      .warn).fetched = 3 := by decide +kernel
  have stored : (Scan.run (inMemory "memory" [[doubled, []], [first]].flatten) {} {} {}
      .warn).out.stored = Text.utf8 "org.osgi.core|z\n" := by decide +kernel
  exact ⟨lawful, there, free, consistent, named, distinct, small, valid, reliable, written,
    snapshot, done, opened, same.fetched.trans fetched,
    (congrArg Sink.stored same.out).trans stored⟩

end ArtifactGroups.Index
