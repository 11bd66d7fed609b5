import ArtifactGroups.Index.Library
import ArtifactGroups.Proofs.Index.Fields
import ArtifactGroups.Proofs.Index.Layout

/-! What is relied on of the library that keeps indexes: a batch that is committed becomes one
segment, the segments are listed from the largest to the smallest, and the values of a document come
back grouped by name. The library as it was observed does all that. -/
namespace ArtifactGroups.Index

/-- Batches that each fit into one segment: its positions are 32-bit words, and so is its number. -/
structure Addressable (batches : List (List Record)) : Prop where
  few : batches.length < 2 ^ 32
  small : ∀ batch ∈ batches, batch.length < 2 ^ 32
  nonempty : ∀ batch ∈ batches, batch ≠ []

/-- The searcher lists these segments, which are the batches, none before a larger one. -/
structure Searcher.Shows (searcher : Searcher) (batches segments : List (List Record)) : Prop where
  perm : segments.Perm batches
  descending : segments.Pairwise fun s t => t.length ≤ s.length
  sizes : searcher.sizes.map UInt32.toNat = segments.map List.length
  document : ∀ (address : Address) (inside : address.segment.toNat < segments.length)
    (within : address.position.toNat < segments[address.segment.toNat].length), ∃ values,
      searcher.document address = .ok values ∧
        Grouped segments[address.segment.toNat][address.position.toNat] values

theorem Searcher.Shows.length_sizes {searcher : Searcher} {batches segments : List (List Record)}
    (shows : searcher.Shows batches segments) : searcher.sizes.length = segments.length := by
  simpa using congrArg List.length shows.sizes

/-- An index opens that was committed with a field of the right type for every value. -/
structure Library.Lawful (library : Library) : Prop where
  base : ∀ name ∈ ["g", "a", "u"], library.takesName name = true
  opens : ∀ (schema : Schema) (batches : List (List Record)),
    (∀ name ∈ schema.names, library.takesName name = true) →
    (∀ record ∈ batches.flatten, schema.fields record = .ok (record.map (·.2.type))) →
    Addressable batches → ∃ searcher segments,
      library.attach (some (library.commit schema batches)) = .ok searcher ∧
        searcher.Shows batches segments

/-! ### The library as it was observed -/

theorem notSmaller_trans (r s t : List Record) (first : notSmaller r s = true)
    (second : notSmaller s t = true) : notSmaller r t = true := by
  simp only [notSmaller, decide_eq_true_eq] at first second ⊢
  omega

theorem notSmaller_total (s t : List Record) : (notSmaller s t || notSmaller t s) = true := by
  simp only [notSmaller, Bool.or_eq_true, decide_eq_true_eq]
  omega

theorem inOrder_trans (r s t : String × Value) (first : inOrder r s = true)
    (second : inOrder s t = true) : inOrder r t = true := by
  simp only [inOrder, Text.precedes, Bool.not_eq_true', decide_eq_false_iff_not,
    String.not_lt] at first second ⊢
  exact String.le_trans first second

theorem inOrder_total (s t : String × Value) : (inOrder s t || inOrder t s) = true := by
  simp only [inOrder, Text.precedes, Bool.or_eq_true, Bool.not_eq_true', decide_eq_false_iff_not,
    String.not_lt]
  exact String.le_total s.1 t.1

theorem filter_byName (record : Record) (name : String) :
    (byName record).filter (·.1 = name) = record.filter (·.1 = name) := by
  have named (entry : String × Value) (member : entry ∈ record.filter (·.1 = name)) :
      entry.1 = name := by
    simpa using (List.mem_filter.1 member).2
  have alike : (record.filter (·.1 = name)).Pairwise fun s t => inOrder s t = true := by
    rw [List.pairwise_iff_getElem]
    intro i j hi hj _
    rw [inOrder, named _ (List.getElem_mem hi), named _ (List.getElem_mem hj)]
    simp [Text.precedes]
  -- The sort is stable, so these values are a sublist of it; by their number they are all.
  have kept : (record.filter (·.1 = name)).Sublist (byName record) :=
    List.sublist_mergeSort inOrder_trans inOrder_total alike List.filter_sublist
  have inside := kept.filter (·.1 = name)
  rw [List.filter_filter] at inside
  simp only [Bool.and_self] at inside
  have count := ((List.mergeSort_perm record inOrder).filter (·.1 = name)).length_eq
  exact (inside.eq_of_length count.symm).symm

theorem grouped_byName (record : Record) : Grouped record (byName record) where
  sorted := by
    refine (List.pairwise_mergeSort inOrder_trans inOrder_total record).imp fun placed => ?_
    rw [← Text.precedes_iff]
    simpa [inOrder] using placed
  values := filter_byName record

theorem Manifest.searcher_shows {manifest : Manifest} (intact : manifest.store = .intact)
    (addressable : Addressable manifest.batches) (damage : String) :
    (manifest.searcher damage).Shows manifest.batches manifest.segments where
  perm := List.mergeSort_perm _ _
  descending := by
    refine (List.pairwise_mergeSort notSmaller_trans notSmaller_total manifest.batches).imp ?_
    exact fun placed => by simpa [notSmaller] using placed
  sizes := by
    rw [searcher, List.map_map]
    refine List.map_congr_left fun segment member => UInt32.toNat_ofNat_of_lt' ?_
    exact addressable.small segment ((List.mergeSort_perm _ _).mem_iff.1 member)
  document address inside within := by
    refine ⟨_, ?_, grouped_byName _⟩
    simp only [searcher, List.getElem?_eq_getElem inside, Option.bind_some,
      List.getElem?_eq_getElem within, intact, if_true]

/-- Nothing of this depends on what was not observed. -/
theorem Library.lawful_observed (damage : String)
    (text : Schema → List (List Record) → Bytes) : (observed damage text).Lawful where
  base := by
    simp only [observed]
    decide +kernel
  opens _ _ _ _ addressable := ⟨_, _, rfl, Manifest.searcher_shows rfl addressable damage⟩

end ArtifactGroups.Index
