import ArtifactGroups.Index.Layout
import Mathlib.Algebra.GroupWithZero.Nat

/-! Ordinals and addresses. The starts of the segments are the sums of the sizes before them, and
the address of an ordinal is the place where it stands if the segments are put one behind the
other. Fewer than 2^32 segments never have more ordinals than there are 64-bit words. -/
namespace ArtifactGroups.Index

/-- The first positions of runs of these sizes, from `base` on. -/
def startsFrom (base : Nat) : List Nat → List Nat
  | [] => []
  | size :: rest => base :: startsFrom (base + size) rest

theorem length_startsFrom (base : Nat) (sizes : List Nat) :
    (startsFrom base sizes).length = sizes.length := by
  induction sizes generalizing base with
  | nil => rfl
  | cons size rest ih => simp [startsFrom, ih]

theorem getElem?_startsFrom (base : Nat) {sizes : List Nat} {i : Nat} (bound : i < sizes.length) :
    (startsFrom base sizes)[i]? = some (base + (sizes.take i).sum) := by
  induction sizes generalizing base i with
  | nil => simp at bound
  | cons size rest ih =>
    cases i with
    | zero => simp [startsFrom]
    | succ i =>
      have later := ih (base + size) (Nat.lt_of_succ_lt_succ bound)
      rw [startsFrom, List.getElem?_cons_succ, later, List.take_succ_cons, List.sum_cons,
        Nat.add_assoc]

/-- The last run that starts at or before a position is the one that holds it. -/
theorem takeWhile_startsFrom {base : Nat} {sizes : List Nat} {position : Nat}
    (lower : base ≤ position) (upper : position < base + sizes.sum) :
    ∃ i, ∃ bound : i < sizes.length,
      ((startsFrom base sizes).takeWhile (· ≤ position)).length = i + 1 ∧
        base + (sizes.take i).sum ≤ position ∧
        position < base + (sizes.take i).sum + sizes[i] := by
  induction sizes generalizing base with
  | nil => simp at upper; omega
  | cons size rest ih =>
    rw [List.sum_cons] at upper
    by_cases here : position < base + size
    · refine ⟨0, Nat.succ_pos _, ?_, by simpa using lower, by simpa using here⟩
      have next : (startsFrom (base + size) rest).takeWhile (· ≤ position) = [] := by
        cases rest with
        | nil => rfl
        | cons => exact List.takeWhile_cons_of_neg (by simpa using here)
      rw [startsFrom, List.takeWhile_cons_of_pos (by simpa using lower), next]
      rfl
    · have lower' : base + size ≤ position := by omega
      obtain ⟨i, bound, count, low, high⟩ := ih lower' (by omega)
      refine ⟨i + 1, Nat.succ_lt_succ bound, ?_, ?_, ?_⟩
      · rw [startsFrom, List.takeWhile_cons_of_pos (by simpa using lower), List.length_cons, count]
      · rw [List.take_succ_cons, List.sum_cons]
        omega
      · rw [List.take_succ_cons, List.sum_cons, List.getElem_cons_succ]
        omega

namespace Layout

/-- Words do not wrap as long as the total fits in one. -/
theorem foldl_push (layout : Layout) (sizes : List UInt32)
    (fits : layout.total.toNat + (sizes.map UInt32.toNat).sum < 2 ^ 64) :
    (sizes.foldl push layout).starts.map UInt64.toNat =
        layout.starts.map UInt64.toNat ++
          startsFrom layout.total.toNat (sizes.map UInt32.toNat) ∧
      (sizes.foldl push layout).total.toNat =
        layout.total.toNat + (sizes.map UInt32.toNat).sum := by
  induction sizes generalizing layout with
  | nil => simp [startsFrom]
  | cons size rest ih =>
    rw [List.map_cons, List.sum_cons] at fits
    have total : (layout.push size).total.toNat = layout.total.toNat + size.toNat := by
      rw [push, UInt64.toNat_add, UInt32.toNat_toUInt64]
      exact Nat.mod_eq_of_lt (by omega)
    obtain ⟨starts, all⟩ := ih (layout.push size) (by omega)
    rw [total] at starts all
    rw [List.foldl_cons, starts, all, List.map_cons, List.sum_cons]
    refine ⟨?_, Nat.add_assoc ..⟩
    rw [push, List.map_append, List.map_singleton, List.append_assoc]
    rfl

theorem sum_lt_of_length {sizes : List UInt32} (few : sizes.length < 2 ^ 32) :
    (sizes.map UInt32.toNat).sum < 2 ^ 64 := by
  -- (2^32 - 1) * (2^32 - 1) is below 2^64.
  have bound : (sizes.map UInt32.toNat).sum ≤ sizes.length * (2 ^ 32 - 1) := by
    induction sizes with
    | nil => simp
    | cons size rest ih =>
      have later := ih (Nat.lt_of_succ_lt few)
      have := size.toNat_lt
      rw [List.map_cons, List.sum_cons, List.length_cons, Nat.succ_mul]
      omega
  omega

variable {sizes : List UInt32}

theorem starts_ofSizes (few : sizes.length < 2 ^ 32) :
    (ofSizes sizes).starts.map UInt64.toNat = startsFrom 0 (sizes.map UInt32.toNat) := by
  have fits := sum_lt_of_length few
  simpa [ofSizes] using (foldl_push {} sizes (by simpa using fits)).1

theorem total_ofSizes (few : sizes.length < 2 ^ 32) :
    (ofSizes sizes).total.toNat = (sizes.map UInt32.toNat).sum := by
  have fits := sum_lt_of_length few
  simpa [ofSizes] using (foldl_push {} sizes (by simpa using fits)).2

theorem length_starts_ofSizes (few : sizes.length < 2 ^ 32) :
    (ofSizes sizes).starts.length = sizes.length := by
  have := congrArg List.length (starts_ofSizes few)
  simpa [length_startsFrom] using this

theorem start_ofSizes (few : sizes.length < 2 ^ 32) {i : Nat} (bound : i < sizes.length) :
    ((ofSizes sizes).starts.getD i 0).toNat = ((sizes.map UInt32.toNat).take i).sum := by
  have inside : i < (sizes.map UInt32.toNat).length := by simpa using bound
  have found := getElem?_startsFrom 0 inside
  rw [← starts_ofSizes few, List.getElem?_map, Option.map_eq_some_iff, Nat.zero_add] at found
  obtain ⟨word, there, same⟩ := found
  rw [List.getD_eq_getElem?_getD, there, Option.getD_some, same]

theorem segment_of_lt (few : sizes.length < 2 ^ 32) {ordinal : UInt64}
    (below : ordinal < (ofSizes sizes).total) :
    ∃ i, ∃ bound : i < sizes.length,
      ((ofSizes sizes).starts.takeWhile (· ≤ ordinal)).length = i + 1 ∧
        ((sizes.map UInt32.toNat).take i).sum ≤ ordinal.toNat ∧
        ordinal.toNat < ((sizes.map UInt32.toNat).take i).sum + sizes[i].toNat := by
  have upper : ordinal.toNat < 0 + (sizes.map UInt32.toNat).sum := by
    rw [Nat.zero_add, ← total_ofSizes few]
    exact below
  obtain ⟨i, bound, count, low, high⟩ := takeWhile_startsFrom (Nat.zero_le _) upper
  rw [Nat.zero_add] at low
  rw [List.getElem_map, Nat.zero_add] at high
  refine ⟨i, by simpa using bound, ?_, low, high⟩
  rw [← count, ← starts_ofSizes few, List.takeWhile_map, List.length_map]
  congr 2

theorem address_of_lt (few : sizes.length < 2 ^ 32) {ordinal : UInt64}
    (below : ordinal < (ofSizes sizes).total) :
    ∃ address, (ofSizes sizes).address ordinal = .ok address ∧
      ∃ bound : address.segment.toNat < sizes.length,
        address.position < sizes[address.segment.toNat] ∧
        ((sizes.map UInt32.toNat).take address.segment.toNat).sum + address.position.toNat =
          ordinal.toNat := by
  obtain ⟨i, bound, passed, low, high⟩ := segment_of_lt few below
  have start := start_ofSizes few bound
  have segment : (UInt32.ofNat i).toNat = i := UInt32.toNat_ofNat_of_lt' (Nat.lt_trans bound few)
  have position : (ordinal - (ofSizes sizes).starts.getD i 0).toUInt32.toNat =
      ordinal.toNat - ((sizes.map UInt32.toNat).take i).sum := by
    have le : (ofSizes sizes).starts.getD i 0 ≤ ordinal := by
      rw [UInt64.le_iff_toNat_le, start]
      exact low
    have size := sizes[i].toNat_lt
    rw [UInt64.toNat_toUInt32, UInt64.toNat_sub_of_le _ _ le, start]
    omega
  refine ⟨⟨UInt32.ofNat i, (ordinal - (ofSizes sizes).starts.getD i 0).toUInt32⟩, ?_, ?_⟩
  · rw [address, if_neg (UInt64.not_le.2 below)]
    simp only [passed, Nat.add_sub_cancel]
  · simp only [segment]
    refine ⟨bound, ?_, ?_⟩
    · rw [UInt32.lt_iff_toNat_lt, position]
      omega
    · rw [position]
      omega

theorem address_of_le {layout : Layout} {ordinal : UInt64} (above : layout.total ≤ ordinal) :
    layout.address ordinal = .error (.ordinalTooLarge ordinal.toNat layout.total.toNat) :=
  if_pos above

end Layout

end ArtifactGroups.Index
