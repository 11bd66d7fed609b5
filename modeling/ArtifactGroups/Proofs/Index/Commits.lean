import ArtifactGroups.Proofs.Index.Batches
import Mathlib.Data.List.Destutter

/-! How a draft keeps book of its batches, and how its records are written. The segments are
counted by the ends of batches, the records are split at the positions where a batch was closed,
and both come to the runs of the steps that made the draft. -/
namespace ArtifactGroups.Index

namespace Step

/-- Writing the records from a position on: each is added, after a commit if a batch was closed
right before it and it is not the first of all. The last batch is left open. -/
def writing (bounds : List Nat) : (position : Nat) → List Record → List Step
  | _, [] => []
  | position, record :: rest =>
    if 0 < position ∧ position ∈ bounds then
      .close :: .add record :: writing bounds (position + 1) rest
    else .add record :: writing bounds (position + 1) rest

theorem runs_concat_close (steps : List Step) : runs (steps ++ [.close]) = runs steps ++ [[]] := by
  induction steps with
  | nil => rfl
  | cons step rest ih =>
    cases step with
    | add record =>
      obtain ⟨first, others, parts⟩ := List.exists_cons_of_ne_nil (runs_ne_nil rest)
      simp only [List.cons_append, runs, ih, parts, List.modifyHead_cons]
    | close => simp only [List.cons_append, runs, ih]

theorem batches_concat_close (steps : List Step) : batches (steps ++ [.close]) = batches steps := by
  simp [batches, runs_concat_close]

theorem batches_cons_close (steps : List Step) : batches (.close :: steps) = batches steps := rfl

@[simp] theorem records_writing (bounds : List Nat) (position : Nat) (items : List Record) :
    records (writing bounds position items) = items := by
  induction items generalizing position with
  | nil => rfl
  | cons record rest ih =>
    have later := congrArg (record :: ·) (ih (position + 1))
    rw [writing]
    split <;> exact later

theorem mem_closings_writing {bounds : List Nat} {position bound : Nat} {items : List Record} :
    bound ∈ closings position (writing bounds position items) ↔
      bound ∈ bounds ∧ 0 < bound ∧ position ≤ bound ∧ bound < position + items.length := by
  induction items generalizing position with
  | nil =>
    simp only [writing, closings, List.not_mem_nil, List.length_nil, false_iff]
    omega
  | cons record rest ih =>
    rw [writing, List.length_cons]
    split
    next cut =>
      rw [closings, List.mem_cons, closings, ih]
      by_cases here : bound = position
      · subst here
        simp [cut.1, cut.2]
      · constructor
        · rintro (same | ⟨member, positive, behind, inside⟩)
          · exact absurd same here
          · exact ⟨member, positive, by omega, by omega⟩
        · rintro ⟨member, positive, behind, inside⟩
          exact .inr ⟨member, positive, by omega, by omega⟩
    next whole =>
      rw [closings, ih]
      constructor
      · rintro ⟨member, positive, behind, inside⟩
        exact ⟨member, positive, by omega, by omega⟩
      · rintro ⟨member, positive, behind, inside⟩
        have other : bound ≠ position := by
          rintro rfl
          exact whole ⟨positive, member⟩
        exact ⟨member, positive, by omega, by omega⟩

/-- No commit closes an empty run, so only the first run can be empty. -/
theorem ne_nil_of_mem_tail_runs_writing {bounds : List Nat} {position : Nat}
    {items run : List Record} (member : run ∈ (runs (writing bounds position items)).tail) :
    run ≠ [] := by
  induction items generalizing position with
  | nil => simp [writing, runs] at member
  | cons record rest ih =>
    obtain ⟨first, others, parts⟩ :=
      List.exists_cons_of_ne_nil (runs_ne_nil (writing bounds (position + 1) rest))
    have later (inside : run ∈ others) : run ≠ [] := by
      have behind : run ∈ (runs (writing bounds (position + 1) rest)).tail := by
        rw [parts]
        exact inside
      exact ih behind
    rw [writing] at member
    split at member
    next =>
      simp only [runs, parts, List.modifyHead_cons, List.tail_cons, List.mem_cons] at member
      rcases member with rfl | inside
      · exact List.cons_ne_nil _ _
      · exact later inside
    next =>
      simp only [runs, parts, List.modifyHead_cons, List.tail_cons] at member
      exact later member

theorem runs_writing {bounds : List Nat} {items : List Record} (nonempty : items ≠ []) :
    runs (writing bounds 0 items) = batches (writing bounds 0 items) := by
  obtain ⟨record, rest, rfl⟩ := List.exists_cons_of_ne_nil nonempty
  obtain ⟨first, others, parts⟩ :=
    List.exists_cons_of_ne_nil (runs_ne_nil (writing bounds 1 rest))
  have start : runs (writing bounds 0 (record :: rest)) = (record :: first) :: others := by
    simp only [writing, Nat.lt_irrefl, false_and, if_false, runs, parts, List.modifyHead_cons]
  have full : ∀ run ∈ runs (writing bounds 0 (record :: rest)), (!run.isEmpty) = true := by
    intro run member
    rw [start] at member
    rcases List.mem_cons.1 member with rfl | later
    · rfl
    · have behind : run ∈ (runs (writing bounds 1 rest)).tail := by
        rw [parts]
        exact later
      simpa using ne_nil_of_mem_tail_runs_writing behind
  exact (List.filter_eq_self.2 full).symm

end Step

theorem cutAt_congr {α : Type} {bounds others : List Nat} {position : Nat} {items : List α}
    (same : ∀ bound, position < bound → bound < position + items.length →
      (bound ∈ bounds ↔ bound ∈ others)) :
    cutAt bounds position items = cutAt others position items := by
  induction items generalizing position with
  | nil => rfl
  | cons item rest ih =>
    rw [List.length_cons] at same
    have later : cutAt bounds (position + 1) rest = cutAt others (position + 1) rest :=
      ih fun bound behind inside => same bound (by omega) (by omega)
    rw [cutAt, cutAt, later]
    cases rest with
    | nil => rfl
    | cons next rest =>
      have here := same (position + 1) (by omega) (by simp)
      simp only [here]

namespace Draft

/-- The steps in which a draft is written. -/
def writing (draft : Draft) : List Step := Step.writing draft.bounds 0 draft.records

/-- The commits of the writing split the records into the batches. -/
theorem batches_writing (draft : Draft) : Step.batches draft.writing = draft.batches := by
  have split : cutAt (Step.closings 0 draft.writing) 0 (Step.records draft.writing) =
      Step.batches draft.writing :=
    Step.cutAt_records fun _ _ => Iff.rfl
  rw [writing, Step.records_writing] at split
  rw [writing, ← split, batches]
  apply cutAt_congr
  intro bound behind inside
  rw [Step.mem_closings_writing]
  exact ⟨And.left, fun member => ⟨member, behind, Nat.zero_le _, inside⟩⟩

theorem close_close (draft : Draft) : draft.close.close = draft.close := by
  have closed := draft.getLast?_bounds_close
  rw [← records_close] at closed
  exact dif_pos closed

theorem ofSteps_close_close (steps more : List Step) :
    ofSteps (steps ++ .close :: .close :: more) = ofSteps (steps ++ .close :: more) := by
  simp only [ofSteps, List.foldl_append, List.foldl_cons, step, close_close]

end Draft

theorem destutter'_concat_last {x last : Nat} {rest : List Nat}
    (apart : (x :: rest).IsChain (· ≠ ·)) (ends : (x :: rest).getLast? = some last) :
    (rest ++ [last]).destutter' (· ≠ ·) x = x :: rest := by
  induction rest generalizing x with
  | nil =>
    obtain rfl : x = last := by simpa using ends
    simp
  | cons next rest ih =>
    obtain ⟨different, others⟩ := List.isChain_cons_cons.1 apart
    rw [List.getLast?_cons_cons] at ends
    rw [List.cons_append, List.destutter'_cons_pos _ different, ih others ends]

namespace Draft

theorem close_bounds_eq (draft : Draft) :
    draft.close.bounds = (draft.bounds ++ [draft.records.length]).destutter (· ≠ ·) := by
  by_cases closed : draft.bounds.getLast? = some draft.records.length
  · have kept : draft.close = draft := dif_pos closed
    have apart : draft.bounds.IsChain (· ≠ ·) :=
      (draft.increasing.imp Nat.ne_of_lt).isChain
    rw [kept]
    cases bounds : draft.bounds with
    | nil => simp [bounds] at closed
    | cons first rest =>
      rw [bounds] at apart closed
      rw [List.cons_append, List.destutter_cons', destutter'_concat_last apart closed]
  · have added : draft.close.bounds = draft.bounds ++ [draft.records.length] := by
      rw [close, dif_neg closed]
    have apart := (draft.close.increasing.imp Nat.ne_of_lt).isChain
    rw [added] at apart ⊢
    exact (List.destutter_of_isChain _ _ apart).symm

/-- For any steps on an empty draft: the bounds increase and lie within the records, and closing
twice is closing once. The segments that are counted, by the distinct ends of batches, are the runs
of the steps that hold a record; closing at the start, twice or at the end never adds one. The
records are cut, and written, into exactly these runs. -/
theorem ofSteps_batched (steps : List Step) :
    let draft := ofSteps steps
    draft.records = Step.records steps ∧
    draft.bounds.Pairwise (· < ·) ∧ (∀ bound ∈ draft.bounds, bound ≤ draft.records.length) ∧
    (draft.close.close = draft.close ∧
      ∀ more, ofSteps (steps ++ .close :: .close :: more) = ofSteps (steps ++ .close :: more)) ∧
    (draft.segmentCount = (Step.batches steps).length ∧
      draft.segmentCount =
        ((draft.bounds ++ [draft.records.length]).destutter (· ≠ ·)).countP (0 < ·)) ∧
    ((ofSteps (.close :: steps)).segmentCount = draft.segmentCount ∧
      (ofSteps (steps ++ [.close])).segmentCount = draft.segmentCount) ∧
    (draft.batches = Step.batches steps ∧ Step.batches draft.writing = Step.batches steps ∧
      (draft.records ≠ [] → Step.runs draft.writing = Step.batches steps)) := by
  intro draft
  have count (others : List Step) :
      (ofSteps others).segmentCount = (Step.batches others).length := by
    rw [segmentCount_eq, batches_ofSteps]
  have cut : draft.batches = Step.batches steps := batches_ofSteps steps
  have written : Step.batches draft.writing = Step.batches steps :=
    draft.batches_writing.trans cut
  refine ⟨records_ofSteps steps, draft.increasing, draft.within,
    ⟨close_close draft, ofSteps_close_close steps⟩, ⟨count steps, ?_⟩, ⟨?_, ?_⟩, cut, written, ?_⟩
  · rw [segmentCount, draft.close_bounds_eq]
  · rw [count, count steps, Step.batches_cons_close]
  · rw [count, count steps, Step.batches_concat_close]
  · intro nonempty
    exact (Step.runs_writing nonempty).trans written

end Draft

end ArtifactGroups.Index
