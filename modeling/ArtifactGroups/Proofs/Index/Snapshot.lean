import ArtifactGroups.Proofs.Index.Library

/-! Documents of an opened index by ordinal: the record at an ordinal is the one at that position
if all segments are put one behind the other. A segment has 32-bit positions, so the statements
are about segments whose sizes are 32-bit words. -/
namespace ArtifactGroups.Index

theorem getElem?_flatten {α : Type} {segments : List (List α)} {i j : Nat}
    (inside : i < segments.length) (within : j < segments[i].length) :
    segments.flatten[((segments.map List.length).take i).sum + j]? = some segments[i][j] := by
  induction segments generalizing i with
  | nil => simp at inside
  | cons segment rest ih =>
    cases i with
    | zero =>
      simp only [List.take_zero, List.sum_nil, Nat.zero_add, List.flatten_cons,
        List.getElem_cons_zero] at within ⊢
      rw [List.getElem?_append_left within, List.getElem?_eq_getElem within]
    | succ i =>
      have later := ih (Nat.lt_of_succ_lt_succ inside) within
      rw [List.map_cons, List.take_succ_cons, List.sum_cons, List.flatten_cons, Nat.add_assoc,
        List.getElem?_append_right (Nat.le_add_right _ _), Nat.add_sub_cancel_left, later]
      rfl

namespace Snapshot

/-- The snapshot has the records of the segments, one segment behind the other. -/
structure Holds (snapshot : Snapshot) (segments : List (List Record)) : Prop where
  total : snapshot.total.toNat = segments.flatten.length
  segmentCount : snapshot.segmentCount = segments.length
  document : ∀ ordinal < snapshot.total, ∃ record fields,
    segments.flatten[ordinal.toNat]? = some record ∧ GroupedByName record fields ∧
      snapshot.document ordinal = .ok ⟨ordinal.toNat, fields⟩

variable {location : String} {searcher : Searcher} {batches segments : List (List Record)}

theorem document_of_lt (shows : searcher.Shows batches segments)
    (few : searcher.sizes.length < 2 ^ 32) {ordinal : UInt64}
    (below : ordinal < (Snapshot.mk location searcher).total) :
    ∃ record fields, segments.flatten[ordinal.toNat]? = some record ∧ GroupedByName record fields ∧
      (Snapshot.mk location searcher).document ordinal = .ok ⟨ordinal.toNat, fields⟩ := by
  obtain ⟨address, located, inside, within, place⟩ := Layout.address_of_lt few below
  have bound : address.segment.toNat < segments.length := shows.length_sizes ▸ inside
  have size : address.position.toNat < segments[address.segment.toNat].length := by
    have same : (searcher.sizes.map UInt32.toNat)[address.segment.toNat]? =
        some segments[address.segment.toNat].length := by
      rw [shows.sizes, List.getElem?_map, List.getElem?_eq_getElem bound]
      rfl
    rw [List.getElem?_map, List.getElem?_eq_getElem inside, Option.map_some] at same
    rw [← Option.some.inj same]
    exact UInt32.lt_iff_toNat_lt.1 within
  rw [shows.sizes] at place
  have found := getElem?_flatten bound size
  rw [place] at found
  obtain ⟨values, read, grouped⟩ := shows.document address bound size
  have address_eq : (Snapshot.mk location searcher).layout.address ordinal = .ok address := located
  refine ⟨_, _, found, grouped.fields, ?_⟩
  simp only [document, address_eq, bind, Except.bind, read]

theorem holds_of_shows (shows : searcher.Shows batches segments)
    (addressable : Addressable batches) (location : String) :
    (Snapshot.mk location searcher).Holds segments := by
  have few : searcher.sizes.length < 2 ^ 32 := by
    rw [shows.length_sizes, shows.perm.length_eq]
    exact addressable.few
  refine ⟨?_, ?_, fun ordinal below => document_of_lt shows few below⟩
  · rw [List.length_flatten, ← shows.sizes]
    exact Layout.total_ofSizes few
  · rw [← shows.length_sizes]
    exact Layout.length_starts_ofSizes few

theorem document_of_le {snapshot : Snapshot} {ordinal : UInt64}
    (above : snapshot.total ≤ ordinal) :
    snapshot.document ordinal =
      .error (.ordinalTooLarge ordinal.toNat snapshot.total.toNat) := by
  have refused := Layout.address_of_le above
  simp only [document, refused, bind, Except.bind, total]

end Snapshot

end ArtifactGroups.Index
