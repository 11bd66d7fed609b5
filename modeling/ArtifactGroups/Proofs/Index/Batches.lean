import ArtifactGroups.Index.Draft

/-! The batches of a draft in terms of the steps that made it: they are the runs of records
between two closings, without the empty runs. Closing at the very beginning, twice in a row or
after the last record never adds one. -/
namespace ArtifactGroups.Index

inductive Step where
  | add (record : Record)
  | close
  deriving DecidableEq, Repr

namespace Draft

def step (draft : Draft) : Step → Draft
  | .add record => draft.add record
  | .close => draft.close

def ofSteps (steps : List Step) : Draft := steps.foldl step {}

end Draft

namespace Step

def record? : Step → Option Record
  | .add record => some record
  | .close => none

def records (steps : List Step) : List Record := steps.filterMap record?

/-- The records between the closings. The last run is the one that is still open. -/
def runs : List Step → List (List Record)
  | [] => [[]]
  | .add record :: rest => (runs rest).modifyHead (record :: ·)
  | .close :: rest => [] :: runs rest

/-- The runs that hold a record. -/
def batches (steps : List Step) : List (List Record) := (runs steps).filter (!·.isEmpty)

/-- The record counts at which a run is closed, where `position` records came before. -/
def closings : (position : Nat) → List Step → List Nat
  | _, [] => []
  | position, .add _ :: rest => closings (position + 1) rest
  | position, .close :: rest => position :: closings position rest

theorem runs_ne_nil (steps : List Step) : runs steps ≠ [] := by
  induction steps with
  | nil => simp [runs]
  | cons step rest ih =>
    cases step with
    | add => simpa [runs] using ih
    | close => simp [runs]

theorem flatten_runs (steps : List Step) : (runs steps).flatten = records steps := by
  induction steps with
  | nil => rfl
  | cons step rest ih =>
    cases step with
    | add record =>
      obtain ⟨first, others, parts⟩ := List.exists_cons_of_ne_nil (runs_ne_nil rest)
      rw [parts] at ih
      simp only [runs, parts, List.modifyHead_cons, List.flatten_cons, List.cons_append] at ih ⊢
      rw [ih]
      rfl
    | close => exact ih

theorem flatten_batches (steps : List Step) : (batches steps).flatten = records steps := by
  rw [batches, List.flatten_filter_not_isEmpty, flatten_runs]

theorem le_of_mem_closings {steps : List Step} {position bound : Nat}
    (member : bound ∈ closings position steps) : position ≤ bound := by
  induction steps generalizing position with
  | nil => simp [closings] at member
  | cons step rest ih =>
    cases step with
    | add => exact Nat.le_of_succ_le (ih member)
    | close =>
      rcases List.mem_cons.1 member with rfl | later
      · exact Nat.le_refl _
      · exact ih later

/-- Cutting the records behind the closings gives the runs back. Only bounds behind `position`
can cut. -/
theorem cutAt_records {bounds : List Nat} {steps : List Step} {position : Nat}
    (same : ∀ bound, position < bound → (bound ∈ bounds ↔ bound ∈ closings position steps)) :
    cutAt bounds position (records steps) = batches steps := by
  induction steps generalizing position with
  | nil => rfl
  | cons step rest ih =>
    cases step with
    | close =>
      have later := ih fun bound behind => by
        rw [same bound behind, closings, List.mem_cons]
        exact or_iff_right (by omega)
      exact later
    | add record =>
      -- The record ends its batch exactly if the next step is a closing.
      have later := ih fun bound behind => same bound (by omega)
      have here := same (position + 1) (Nat.lt_succ_self _)
      change cutAt bounds position (record :: records rest) = _
      rw [cutAt, later]
      cases rest with
      | nil => rfl
      | cons next rest =>
        cases next with
        | close =>
          have cut : position + 1 ∈ bounds := here.2 List.mem_cons_self
          have run : batches (.add record :: .close :: rest) = [record] :: batches rest := rfl
          have skipped : batches (.close :: rest) = batches rest := rfl
          rw [run, skipped]
          split
          next none => rw [none]
          next batch others some => rw [if_pos cut, some]
        | add other =>
          have whole : position + 1 ∉ bounds := by
            intro cut
            have further : position + 1 ∈ closings (position + 2) rest := here.1 cut
            have := le_of_mem_closings further
            omega
          obtain ⟨first, others, parts⟩ := List.exists_cons_of_ne_nil (runs_ne_nil rest)
          have run : batches (.add other :: rest) =
              (other :: first) :: others.filter (!·.isEmpty) := by
            simp [batches, runs, parts]
          rw [run]
          simp only [if_neg whole]
          simp [batches, runs, parts]

end Step

namespace Draft

theorem mem_close_bounds (draft : Draft) (bound : Nat) :
    bound ∈ draft.close.bounds ↔ bound ∈ draft.bounds ∨ bound = draft.records.length := by
  unfold close
  split
  next last =>
    have member := List.mem_of_getLast? last
    exact ⟨.inl, fun either => either.elim id fun same => same ▸ member⟩
  next => simp

@[simp] theorem records_close (draft : Draft) : draft.close.records = draft.records := by
  unfold close
  split <;> rfl

theorem foldl_step (draft : Draft) (steps : List Step) :
    (steps.foldl step draft).records = draft.records ++ Step.records steps ∧
      ∀ bound, bound ∈ (steps.foldl step draft).bounds ↔
        bound ∈ draft.bounds ∨ bound ∈ Step.closings draft.records.length steps := by
  induction steps generalizing draft with
  | nil => simp [Step.records, Step.closings]
  | cons first rest ih =>
    obtain ⟨records, bounds⟩ := ih (draft.step first)
    rw [List.foldl_cons]
    cases first with
    | add record =>
      refine ⟨records.trans ?_, fun bound => (bounds bound).trans ?_⟩
      · simp [step, add, Step.records, Step.record?]
      · simp [step, add, Step.closings]
    | close =>
      refine ⟨records.trans ?_, fun bound => (bounds bound).trans ?_⟩
      · rw [step, records_close]
        rfl
      · simp [step, Step.closings, mem_close_bounds, or_assoc]

theorem records_ofSteps (steps : List Step) : (ofSteps steps).records = Step.records steps :=
  (foldl_step {} steps).1

theorem batches_ofSteps (steps : List Step) : (ofSteps steps).batches = Step.batches steps := by
  rw [batches, records_ofSteps]
  apply Step.cutAt_records
  intro bound _
  simpa [ofSteps] using (foldl_step {} steps).2 bound

theorem getLast?_bounds_close (draft : Draft) :
    draft.close.bounds.getLast? = some draft.records.length := by
  unfold close
  split
  next closed => exact closed
  next => exact List.getLast?_concat

theorem close_bounds (draft : Draft) :
    ∃ earlier, draft.close.bounds = earlier ++ [draft.records.length] ∧
      (∀ bound ∈ earlier, bound < draft.records.length) := by
  obtain ⟨earlier, parts⟩ := List.getLast?_eq_some_iff.1 draft.getLast?_bounds_close
  have increasing := draft.close.increasing
  rw [parts, List.pairwise_append] at increasing
  exact ⟨earlier, parts, fun bound member => increasing.2.2 bound member _ (by simp)⟩

end Draft

theorem countP_inside {bounds : List Nat} (distinct : bounds.Nodup) {position last : Nat}
    (room : position + 1 < last) :
    bounds.countP (fun bound => position < bound && bound < last) =
      bounds.countP (fun bound => position + 1 < bound && bound < last) +
        if position + 1 ∈ bounds then 1 else 0 := by
  rw [← distinct.count, List.count]
  induction bounds with
  | nil => rfl
  | cons bound rest ih =>
    have others := ih distinct.of_cons
    simp only [List.countP_cons]
    grind

/-- One batch more than there are bounds inside, if there are items at all. -/
theorem length_cutAt {α : Type} {bounds : List Nat} (distinct : bounds.Nodup) (position : Nat)
    (items : List α) :
    (cutAt bounds position items).length =
      if items = [] then 0
      else
        bounds.countP (fun bound => position < bound && bound < position + items.length) + 1 := by
  induction items generalizing position with
  | nil => rfl
  | cons item rest ih =>
    have later := ih (position + 1)
    rw [if_neg (List.cons_ne_nil item rest), cutAt, List.length_cons]
    cases rest with
    | nil =>
      have none : bounds.countP (fun bound => position < bound && bound < position + 1) = 0 := by
        rw [List.countP_eq_zero]
        intro bound _
        simp only [Bool.and_eq_true, decide_eq_true_eq]
        omega
      simp only [cutAt, List.length_cons, List.length_nil, Nat.zero_add, none]
    | cons next others =>
      rw [if_neg (List.cons_ne_nil next others), List.length_cons] at later
      have inside := countP_inside distinct
        (show position + 1 < position + (others.length + 1 + 1) by omega)
      rw [List.length_cons, inside]
      rw [show position + 1 + (others.length + 1) = position + (others.length + 1 + 1) by omega]
        at later
      split
      next none => simp [none] at later
      next batch batches parts =>
        rw [parts] at later
        split <;> simp_all

namespace Draft

theorem segmentCount_eq (draft : Draft) : draft.segmentCount = draft.batches.length := by
  obtain ⟨earlier, closed, inside⟩ := draft.close_bounds
  have distinct : draft.bounds.Nodup := draft.increasing.imp Nat.ne_of_lt
  -- The bound at the end is not inside, so closing the draft does not change this count.
  have same : draft.bounds.countP (fun bound => 0 < bound && bound < draft.records.length) =
      draft.close.bounds.countP (fun bound => 0 < bound && bound < draft.records.length) := by
    unfold Draft.close
    split <;> simp
  have whole : earlier.countP (fun bound => 0 < bound && bound < draft.records.length) =
      earlier.countP (0 < ·) :=
    List.countP_congr fun bound member => by simp [inside bound member]
  rw [closed, List.countP_append, whole] at same
  rw [segmentCount, batches, length_cutAt distinct, Nat.zero_add, same, closed, List.countP_append]
  cases records : draft.records with
  | nil =>
    have none : earlier = [] := by
      rw [List.eq_nil_iff_forall_not_mem]
      intro bound member
      simpa [records] using inside bound member
    simp [none]
  | cons record rest => simp

end Draft

end ArtifactGroups.Index
