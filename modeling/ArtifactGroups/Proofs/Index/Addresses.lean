import ArtifactGroups.Proofs.Index.Layout

/-! Ordinals and addresses stand for each other one to one, and in the same order. The starts of
the segments are in order, so all that start at or before an ordinal are listed first and a
binary search can count them; empty segments start where the next one does and hold nothing. -/
namespace ArtifactGroups.Index

/-- The first `count` words are at most the ordinal and all others are above it. -/
structure Parts (starts : List UInt64) (ordinal : UInt64) (count : Nat) : Prop where
  within : count ≤ starts.length
  passed : ∀ i, ∀ inside : i < starts.length, starts[i] ≤ ordinal ↔ i < count

theorem Parts.le {starts : List UInt64} {ordinal : UInt64} {count other : Nat}
    (parts : Parts starts ordinal count) (parts' : Parts starts ordinal other) :
    count ≤ other := by
  refine Nat.le_of_not_lt fun more => ?_
  have inside : other < starts.length := Nat.lt_of_lt_of_le more parts.within
  have passed := (parts.passed other inside).2 more
  exact Nat.lt_irrefl _ ((parts'.passed other inside).1 passed)

theorem Parts.unique {starts : List UInt64} {ordinal : UInt64} {count other : Nat}
    (parts : Parts starts ordinal count) (parts' : Parts starts ordinal other) :
    count = other :=
  Nat.le_antisymm (parts.le parts') (parts'.le parts)

theorem parts_takeWhile {starts : List UInt64} (increasing : starts.Pairwise (· ≤ ·))
    (ordinal : UInt64) : Parts starts ordinal (starts.takeWhile (· ≤ ordinal)).length := by
  induction starts with
  | nil => exact ⟨Nat.le_refl _, fun i inside => absurd inside (Nat.not_lt_zero i)⟩
  | cons start rest ih =>
    obtain ⟨first, later⟩ := List.pairwise_cons.1 increasing
    by_cases reached : start ≤ ordinal
    · rw [List.takeWhile_cons_of_pos (by simpa using reached), List.length_cons]
      refine ⟨Nat.succ_le_succ (ih later).within, fun i inside => ?_⟩
      cases i with
      | zero => simp [reached]
      | succ i =>
        have passed := (ih later).passed i (Nat.lt_of_succ_lt_succ inside)
        rw [List.getElem_cons_succ, passed, Nat.succ_lt_succ_iff]
    · rw [List.takeWhile_cons_of_neg (by simpa using reached), List.length_nil]
      refine ⟨Nat.zero_le _, fun i inside => ?_⟩
      have above : ¬(start :: rest)[i] ≤ ordinal := by
        cases i with
        | zero => exact reached
        | succ i =>
          have inRest : i < rest.length := Nat.lt_of_succ_lt_succ inside
          exact fun below => reached (UInt64.le_trans (first _ (List.getElem_mem inRest)) below)
      simp [above]

theorem take_sum_add_le {sizes : List Nat} {i j : Nat} (inside : i < sizes.length)
    (before : i < j) : (sizes.take i).sum + sizes[i] ≤ (sizes.take j).sum := by
  have upTo : (sizes.take (i + 1)).sum = (sizes.take i).sum + sizes[i] := by
    rw [List.take_succ_eq_append_getElem inside, List.sum_append, List.sum_singleton]
  have cut := congrArg List.sum (List.take_append_drop (i + 1) (sizes.take j))
  rw [List.sum_append, List.take_take, Nat.min_eq_left before, upTo] at cut
  omega

theorem pairwise_startsFrom (base : Nat) (sizes : List Nat) :
    (startsFrom base sizes).Pairwise (· ≤ ·) := by
  refine List.pairwise_iff_getElem.2 fun i j inside inside' before => ?_
  have bound : i < sizes.length := length_startsFrom base sizes ▸ inside
  have bound' : j < sizes.length := length_startsFrom base sizes ▸ inside'
  have start := getElem?_startsFrom base bound
  have start' := getElem?_startsFrom base bound'
  rw [List.getElem?_eq_getElem inside, Option.some.injEq] at start
  rw [List.getElem?_eq_getElem inside', Option.some.injEq] at start'
  have passed := take_sum_add_le bound before
  omega

/-- The order of addresses: by segments first, then by positions. -/
def Address.Before (first second : Address) : Prop :=
  first.segment < second.segment ∨
    first.segment = second.segment ∧ first.position < second.position

namespace Layout

/-- The ordinal is the one at this position of this segment. -/
structure Stands (layout : Layout) (sizes : List UInt32) (ordinal : UInt64)
    (segment position : Nat) : Prop where
  segment_lt : segment < sizes.length
  position_lt : position < sizes[segment].toNat
  place : (layout.starts.getD segment 0).toNat + position = ordinal.toNat

variable {sizes : List UInt32} {ordinal later : UInt64} {segment segment' position position' : Nat}

theorem pairwise_starts (few : sizes.length < 2 ^ 32) :
    (ofSizes sizes).starts.Pairwise (· ≤ ·) := by
  have increasing := pairwise_startsFrom 0 (sizes.map UInt32.toNat)
  rw [← starts_ofSizes few, List.pairwise_map] at increasing
  exact increasing.imp UInt64.le_iff_toNat_le.2

theorem Stands.lt_of_segment_lt (few : sizes.length < 2 ^ 32)
    (first : (ofSizes sizes).Stands sizes ordinal segment position)
    (second : (ofSizes sizes).Stands sizes later segment' position')
    (before : segment < segment') : ordinal < later := by
  have inside : segment < (sizes.map UInt32.toNat).length := by simpa using first.segment_lt
  have passed := take_sum_add_le inside before
  have place := first.place
  have place' := second.place
  have within := first.position_lt
  rw [start_ofSizes few first.segment_lt] at place
  rw [start_ofSizes few second.segment_lt] at place'
  rw [List.getElem_map] at passed
  rw [UInt64.lt_iff_toNat_lt]
  omega

theorem Stands.segment_le (few : sizes.length < 2 ^ 32)
    (first : (ofSizes sizes).Stands sizes ordinal segment position)
    (second : (ofSizes sizes).Stands sizes later segment' position') (le : ordinal ≤ later) :
    segment ≤ segment' := by
  refine Nat.le_of_not_lt fun behind => ?_
  have more := lt_of_segment_lt few second first behind
  exact UInt64.not_lt.2 le more

theorem Stands.before (few : sizes.length < 2 ^ 32)
    (first : (ofSizes sizes).Stands sizes ordinal segment position)
    (second : (ofSizes sizes).Stands sizes later segment' position') (less : ordinal < later) :
    segment < segment' ∨ segment = segment' ∧ position < position' := by
  rcases Nat.lt_or_eq_of_le (first.segment_le few second (UInt64.le_of_lt less)) with before | rfl
  · exact .inl before
  · have place := first.place
    have place' := second.place
    rw [UInt64.lt_iff_toNat_lt] at less
    exact .inr ⟨rfl, by omega⟩

theorem Stands.unique (few : sizes.length < 2 ^ 32)
    (first : (ofSizes sizes).Stands sizes ordinal segment position)
    (second : (ofSizes sizes).Stands sizes ordinal segment' position') :
    segment = segment' ∧ position = position' := by
  have same : segment = segment' :=
    Nat.le_antisymm (first.segment_le few second (UInt64.le_refl _))
      (second.segment_le few first (UInt64.le_refl _))
  have place := first.place
  have place' := second.place
  subst same
  exact ⟨rfl, by omega⟩

theorem exists_stands (few : sizes.length < 2 ^ 32) (inside : segment < sizes.length)
    (within : position < sizes[segment].toNat) :
    ∃ ordinal < (ofSizes sizes).total, (ofSizes sizes).Stands sizes ordinal segment position := by
  have bound : segment < (sizes.map UInt32.toNat).length := by simpa using inside
  have passed := take_sum_add_le bound bound
  have start := start_ofSizes few inside
  rw [List.take_length, List.getElem_map, ← total_ofSizes few, ← start] at passed
  have fits : ((ofSizes sizes).starts.getD segment 0).toNat + position < 2 ^ 64 := by
    have := (ofSizes sizes).total.toNat_lt
    omega
  have ordinal := UInt64.toNat_ofNat_of_lt' fits
  refine ⟨.ofNat (((ofSizes sizes).starts.getD segment 0).toNat + position), ?_, ?_⟩
  · rw [UInt64.lt_iff_toNat_lt, ordinal]
    omega
  · exact ⟨inside, within, ordinal.symm⟩

/-- The address of an ordinal is where it stands, and the segments up to it are the ones that
start at or before the ordinal. -/
theorem stands_address (few : sizes.length < 2 ^ 32) (below : ordinal < (ofSizes sizes).total) :
    ∃ address, (ofSizes sizes).address ordinal = .ok address ∧
      (ofSizes sizes).Stands sizes ordinal address.segment.toNat address.position.toNat ∧
      Parts (ofSizes sizes).starts ordinal (address.segment.toNat + 1) := by
  obtain ⟨address, found, inside, within, place⟩ := address_of_lt few below
  have stands : (ofSizes sizes).Stands sizes ordinal address.segment.toNat
      address.position.toNat := by
    refine ⟨inside, UInt32.lt_iff_toNat_lt.1 within, ?_⟩
    rw [start_ofSizes few inside]
    exact place
  refine ⟨address, found, stands, ?_⟩
  have parts := parts_takeWhile (pairwise_starts few) ordinal
  obtain ⟨i, bound, count, low, high⟩ := segment_of_lt few below
  have there : (ofSizes sizes).Stands sizes ordinal i
      (ordinal.toNat - ((sizes.map UInt32.toNat).take i).sum) := by
    refine ⟨bound, by omega, ?_⟩
    rw [start_ofSizes few bound]
    omega
  rw [count, (there.unique few stands).1] at parts
  exact parts

/-- The total is the sum of the sizes and does not overflow. An ordinal below it has one address:
the segments up to its own are those that a search finds to start at or before the ordinal, and
the rest of the ordinal is its position. Later ordinals have later addresses, every position of
every segment is the address of an ordinal, and an ordinal from the total on has none. -/
theorem address_one_to_one (sizes : List UInt32) (few : sizes.length < 2 ^ 32) :
    let layout : Layout := ofSizes sizes
    let counts := sizes.map UInt32.toNat
    (counts.sum < 2 ^ 64 ∧ layout.total.toNat = counts.sum ∧
      layout.starts.length = sizes.length ∧
      ∀ i < sizes.length, (layout.starts.getD i 0).toNat = (counts.take i).sum) ∧
    (∀ ordinal < layout.total, ∃ address, layout.address ordinal = .ok address ∧
      (∀ segment position, layout.Stands sizes ordinal segment position ↔
        segment = address.segment.toNat ∧ position = address.position.toNat) ∧
      ∀ count, Parts layout.starts ordinal count ↔ count = address.segment.toNat + 1) ∧
    (∀ ordinal < layout.total, ∀ later < layout.total, ordinal < later →
      ∃ first second, layout.address ordinal = .ok first ∧ layout.address later = .ok second ∧
        first.Before second) ∧
    (∀ segment position, ∀ inside : segment < sizes.length, position < sizes[segment].toNat →
      ∃ ordinal < layout.total, ∃ address, layout.address ordinal = .ok address ∧
        address.segment.toNat = segment ∧ address.position.toNat = position) ∧
    ∀ ordinal, layout.total ≤ ordinal →
      layout.address ordinal = .error (.ordinalTooLarge ordinal.toNat layout.total.toNat) := by
  intro layout counts
  refine ⟨⟨sum_lt_of_length few, total_ofSizes few, length_starts_ofSizes few,
    fun i => start_ofSizes few⟩, ?_, ?_, ?_, fun ordinal => address_of_le⟩
  · intro ordinal below
    obtain ⟨address, found, stands, parts⟩ := stands_address few below
    refine ⟨address, found, fun segment position => ⟨fun other => other.unique few stands, ?_⟩,
      fun count => ⟨fun other => other.unique parts, ?_⟩⟩
    · rintro ⟨rfl, rfl⟩
      exact stands
    · rintro rfl
      exact parts
  · intro ordinal below later below' less
    obtain ⟨first, found, stands, -⟩ := stands_address few below
    obtain ⟨second, found', stands', -⟩ := stands_address few below'
    refine ⟨first, second, found, found', ?_⟩
    rcases stands.before few stands' less with before | ⟨same, before⟩
    · exact .inl (UInt32.lt_iff_toNat_lt.2 before)
    · exact .inr ⟨UInt32.toNat_inj.1 same, UInt32.lt_iff_toNat_lt.2 before⟩
  · intro segment position inside within
    obtain ⟨ordinal, below, there⟩ := exists_stands few inside within
    obtain ⟨address, found, stands, -⟩ := stands_address few below
    obtain ⟨sameSegment, samePosition⟩ := stands.unique few there
    exact ⟨ordinal, below, address, found, sameSegment, samePosition⟩

/-- Empty segments in front, in a row and at the end: they share the start of the next one. -/
theorem address_one_to_one_empty_segments :
    let sizes : List UInt32 := [0, 2, 0, 0, 3, 0]
    let layout := ofSizes sizes
    sizes.length < 2 ^ 32 ∧ layout.starts = [0, 0, 2, 2, 2, 5] ∧ layout.total.toNat = 5 ∧
      (∃ address, layout.address 2 = .ok address ∧ layout.Stands sizes 2 4 0 ∧
        address.segment.toNat = 4 ∧ address.position.toNat = 0) ∧
      (∃ ordinal < layout.total, ∃ address, layout.address ordinal = .ok address ∧
        address.segment.toNat = 4 ∧ address.position.toNat = 2) ∧
      layout.address 5 = .error (.ordinalTooLarge 5 5) := by
  intro sizes layout
  have few : sizes.length < 2 ^ 32 := by decide
  obtain ⟨⟨-, total, -, -⟩, located, -, reached, outside⟩ := address_one_to_one sizes few
  have stands : layout.Stands sizes 2 4 0 := ⟨by decide, by decide, by decide⟩
  obtain ⟨address, found, only, -⟩ := located 2 (by decide)
  obtain ⟨segment, position⟩ := (only 4 0).1 stands
  exact ⟨few, rfl, total, ⟨address, found, stands, segment.symm, position.symm⟩,
    reached 4 2 (by decide) (by decide), outside 5 (by decide)⟩

end Layout

end ArtifactGroups.Index
