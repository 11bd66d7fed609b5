import ArtifactGroups.Proofs.Index.Batches
import ArtifactGroups.Proofs.Index.Declarations
import ArtifactGroups.Proofs.Index.Snapshot

/-! What is written into an index comes back from it: all documents, batch by batch, with the
largest batch first and the fields of each document grouped by name. That a batch becomes one
segment and that larger segments come first is a law of the library. -/
namespace ArtifactGroups.Index

/-- The same batches, from the largest to the smallest. -/
structure LargestFirst (batches ordered : List (List Record)) : Prop where
  perm : ordered.Perm batches
  decreasing : ordered.Pairwise fun s t => t.length < s.length

theorem LargestFirst.length_flatten {batches ordered : List (List Record)}
    (largest : LargestFirst batches ordered) :
    ordered.flatten.length = batches.flatten.length :=
  largest.perm.flatten.length_eq

theorem LargestFirst.unique {batches ordered other : List (List Record)}
    (largest : LargestFirst batches ordered) (largest' : LargestFirst batches other) :
    ordered = other := by
  refine List.Perm.eq_of_pairwise (fun s t _ _ less more => ?_) largest.decreasing
    largest'.decreasing (largest.perm.trans largest'.perm.symm)
  omega

theorem LargestFirst.of_shows {searcher : Searcher} {batches segments : List (List Record)}
    (shows : searcher.Shows batches segments) (distinct : (batches.map List.length).Nodup) :
    LargestFirst batches segments := by
  have different : segments.Pairwise fun s t => s.length ≠ t.length :=
    List.pairwise_map.1 ((shows.perm.map List.length).nodup_iff.2 distinct)
  refine ⟨shows.perm, (shows.descending.and different).imp fun ⟨le, ne⟩ => ?_⟩
  exact Nat.lt_of_le_of_ne le ne.symm

theorem length_lt_of_distinct {α : Type} {limit : Nat} {batches : List (List α)} (pos : 0 < limit)
    (distinct : (batches.map List.length).Nodup) (nonempty : ∀ batch ∈ batches, batch ≠ [])
    (small : ∀ batch ∈ batches, batch.length < limit) : batches.length < limit := by
  have sizes : batches.map List.length ⊆ List.range' 1 (limit - 1) := by
    intro size member
    obtain ⟨batch, inside, rfl⟩ := List.mem_map.1 member
    have := small batch inside
    have := List.length_pos_iff.2 (nonempty batch inside)
    rw [List.mem_range'_1]
    omega
  have count := distinct.length_le_of_subset sizes
  rw [List.length_map, List.length_range'] at count
  omega

theorem Draft.addressable {draft : Draft} (distinct : (draft.batches.map List.length).Nodup)
    (small : ∀ batch ∈ draft.batches, batch.length < 2 ^ 32) : Addressable draft.batches := by
  have nonempty : ∀ batch ∈ draft.batches, batch ≠ [] := fun _ => ne_nil_of_mem_cutAt
  exact ⟨length_lt_of_distinct (by decide) distinct nonempty small, small, nonempty⟩

theorem Schema.Serves.takes {schema : Schema} {records : List Record} {library : Library}
    (serves : schema.Serves records) (lawful : library.Lawful)
    (named : ∀ entry ∈ records.flatten, library.takesName entry.1 = true) :
    ∀ name ∈ schema.names, library.takesName name = true := by
  intro name member
  rw [serves.names, List.mem_append] at member
  rcases member with base | other
  · exact lawful.base name base
  · rw [List.mem_eraseDups, List.removeAll, List.mem_filter, List.mem_map] at other
    obtain ⟨⟨entry, inside, rfl⟩, -⟩ := other
    exact named entry inside

/-- A draft with batches of different sizes opens, once written, with all of them, the largest
first. -/
theorem Draft.holds_written {library : Library} (lawful : library.Lawful) {draft : Draft}
    {volume written : Volume} {path : String}
    (done : volume.writeIndex draft path library = .ok written)
    (named : ∀ entry ∈ draft.records.flatten, library.takesName entry.1 = true)
    (distinct : (draft.batches.map List.length).Nodup)
    (small : ∀ batch ∈ draft.batches, batch.length < 2 ^ 32) :
    ∃ snapshot ordered, written.openIndex path library = .ok snapshot ∧
      LargestFirst draft.batches ordered ∧ snapshot.Holds ordered := by
  obtain ⟨schema, typed, opens⟩ := Volume.openIndex_of_writeIndex done
  have serves : schema.Serves draft.records := Schema.serves_of_ofRecords typed
  have all : draft.batches.flatten = draft.records := flatten_cutAt _ _ _
  have addressable := draft.addressable distinct small
  have found : ∀ record ∈ draft.batches.flatten,
      schema.fields record = .ok (record.map (·.2.type)) :=
    fun record member => serves.found record (all ▸ member)
  obtain ⟨searcher, segments, attached, shows⟩ :=
    lawful.opens schema draft.batches (serves.takes lawful named) found addressable
  exact ⟨_, segments, opens searcher attached, .of_shows shows distinct,
    Snapshot.holds_of_shows shows addressable path⟩

theorem writeIndex_ok_iff (library : Library) (steps : List Step) {volume : Volume}
    {path : String} {place : Place} (there : volume.directory? path = some place)
    (free : volume.entryAt? (place ++ [Volume.manifestName]) = none) :
    (∃ written, volume.writeIndex (Draft.ofSteps steps) path library = .ok written) ↔
      Consistent (Step.records steps) := by
  rw [← Schema.ofRecords_ok_iff, ← Draft.records_ofSteps]
  constructor
  · rintro ⟨written, done⟩
    obtain ⟨schema, -, typed, -⟩ := Volume.writeIndex_eq_ok_iff.1 done
    exact ⟨schema, typed⟩
  · rintro ⟨schema, typed⟩
    exact ⟨_, Volume.writeIndex_eq_ok_iff.2 ⟨schema, place, typed, there, free, rfl⟩⟩

/-- A draft whose names the library takes can be written where no index is exactly if no name is
used with two types. The written index opens, has a segment for each batch, and holds the documents
of the batches from the largest to the smallest, in the order in which they were added, with their
fields stably sorted by name; ordinals behind the last document are refused. -/
theorem read_back (library : Library) (lawful : library.Lawful) (steps : List Step)
    (volume : Volume) (path : String) (place : Place)
    (there : volume.directory? path = some place)
    (free : volume.entryAt? (place ++ [Volume.manifestName]) = none)
    (named : ∀ entry ∈ (Step.records steps).flatten, library.takesName entry.1 = true)
    (distinct : ((Step.batches steps).map List.length).Nodup)
    (small : ∀ batch ∈ Step.batches steps, batch.length < 2 ^ 32) :
    let draft := Draft.ofSteps steps
    ((∃ written, volume.writeIndex draft path library = .ok written) ↔
        Consistent (Step.records steps)) ∧
      ∀ written, volume.writeIndex draft path library = .ok written →
        ∃ snapshot ordered, written.openIndex path library = .ok snapshot ∧
          LargestFirst (Step.batches steps) ordered ∧
          snapshot.total.toNat = (Step.records steps).length ∧
          snapshot.segmentCount = draft.segmentCount ∧
          draft.segmentCount = (Step.batches steps).length ∧
          (∀ ordinal < snapshot.total, ∃ record fields,
            ordered.flatten[ordinal.toNat]? = some record ∧ GroupedByName record fields ∧
              snapshot.document ordinal = .ok ⟨ordinal.toNat, fields⟩) ∧
          ∀ ordinal, snapshot.total ≤ ordinal → snapshot.document ordinal =
            .error (.ordinalTooLarge ordinal.toNat snapshot.total.toNat) := by
  intro draft
  refine ⟨writeIndex_ok_iff library steps there free, fun written done => ?_⟩
  have batches : draft.batches = Step.batches steps := Draft.batches_ofSteps steps
  rw [← batches] at distinct small ⊢
  rw [← Draft.records_ofSteps] at named
  obtain ⟨snapshot, ordered, opened, largest, holds⟩ :=
    Draft.holds_written lawful done named distinct small
  have count : draft.segmentCount = draft.batches.length := draft.segmentCount_eq
  have segments : snapshot.segmentCount = draft.segmentCount := by
    rw [holds.segmentCount, largest.perm.length_eq, count]
  refine ⟨snapshot, ordered, opened, largest, ?_, segments, count, holds.document,
    fun ordinal above => Snapshot.document_of_le above⟩
  rw [holds.total, largest.length_flatten, batches, Step.flatten_batches]

/-- Closings at both ends and twice in a row, an empty record and a name with two values. -/
theorem read_back_two_batches :
    let number : Record := [("m", .number 1318447), ("g", .text "org.osgi")]
    let doubled : Record := [("u", .text "b|c"), ("a", .text "x"), ("u", .text "a|b")]
    let steps : List Step :=
      [.close, .add number, .close, .close, .add doubled, .add [], .close]
    let volume : Volume := { entries := [(["home", "idx"], .directory)] }
    let library : Library := .observed
    library.Lawful ∧ volume.directory? "idx" = some ["home", "idx"] ∧
      volume.entryAt? (["home", "idx"] ++ [Volume.manifestName]) = none ∧
      (∀ entry ∈ (Step.records steps).flatten, library.takesName entry.1 = true) ∧
      ((Step.batches steps).map List.length).Nodup ∧
      (∀ batch ∈ Step.batches steps, batch.length < 2 ^ 32) ∧
      ∃ written snapshot, volume.writeIndex (Draft.ofSteps steps) "idx" library = .ok written ∧
        written.openIndex "idx" library = .ok snapshot ∧ snapshot.total.toNat = 3 ∧
        snapshot.segmentCount = 2 ∧
        snapshot.document 0 =
          .ok ⟨0, [⟨"a", .text "x"⟩, ⟨"u", .text "b|c"⟩, ⟨"u", .text "a|b"⟩]⟩ ∧
        (∃ fields, GroupedByName number fields ∧ snapshot.document 2 = .ok ⟨2, fields⟩) ∧
        snapshot.document 3 = .error (.ordinalTooLarge 3 3) := by
  intro number doubled steps volume library
  have lawful : library.Lawful := Library.lawful_observed _ _
  have there : volume.directory? "idx" = some ["home", "idx"] := by decide +kernel
  have free : volume.entryAt? (["home", "idx"] ++ [Volume.manifestName]) = none := by
    decide +kernel
  have named : ∀ entry ∈ (Step.records steps).flatten, library.takesName entry.1 = true := by
    decide +kernel
  have distinct : ((Step.batches steps).map List.length).Nodup := by decide +kernel
  have small : ∀ batch ∈ Step.batches steps, batch.length < 2 ^ 32 := by decide +kernel
  have consistent : Consistent (Step.records steps) := by decide +kernel
  obtain ⟨written, back⟩ := read_back library lawful steps volume "idx" ["home", "idx"] there free
    named distinct small
  obtain ⟨final, done⟩ := written.2 consistent
  obtain ⟨snapshot, ordered, opened, largest, total, segments, count, documents, refused⟩ :=
    back final done
  have order : ordered = [[doubled, []], [number]] := by
    refine largest.unique ⟨?_, by simp⟩
    exact List.Perm.swap _ _ _
  have three : snapshot.total.toNat = 3 := total
  have two : snapshot.segmentCount = 2 := segments.trans count
  have below {ordinal : UInt64} (lt : ordinal.toNat < 3) : ordinal < snapshot.total := by
    rw [UInt64.lt_iff_toNat_lt, three]
    exact lt
  have above : snapshot.total ≤ 3 := by
    rw [UInt64.le_iff_toNat_le, three]
    decide
  obtain ⟨first, fields, found, grouped, document⟩ := documents 0 (below (by decide))
  obtain ⟨last, fields', found', grouped', document'⟩ := documents 2 (below (by decide))
  rw [order] at found found'
  obtain rfl : doubled = first := Option.some.inj found
  obtain rfl : number = last := Option.some.inj found'
  have sorted : GroupedByName doubled
      [⟨"a", .text "x"⟩, ⟨"u", .text "b|c"⟩, ⟨"u", .text "a|b"⟩] := by
    refine ⟨by decide +kernel, fun name => ?_⟩
    by_cases a : "a" = name
    · subst a
      decide +kernel
    · simp only [doubled, namedFields, Value.stored, List.map_cons, List.map_nil,
        List.filter_cons, a, decide_false, Bool.false_eq_true, if_false]
  rw [grouped.unique sorted] at document
  have behind := refused 3 above
  rw [three] at behind
  exact ⟨lawful, there, free, named, distinct, small, final, snapshot, done, opened, three, two,
    document, ⟨fields', grouped', document'⟩, behind⟩

end ArtifactGroups.Index
