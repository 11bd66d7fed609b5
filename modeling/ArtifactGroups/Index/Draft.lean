import ArtifactGroups.Index.Schema
import ArtifactGroups.Text.Utf8

/-! An index in the making: records in the order they were added, cut into batches, and what its
files hold once these are committed. An empty batch leaves no trace. -/
namespace ArtifactGroups.Index

/-- `bounds` are the record counts at which a batch was closed. -/
structure Draft where
  records : List Record := []
  bounds : List Nat := []
  increasing : bounds.Pairwise (· < ·) := by exact .nil
  within : ∀ bound ∈ bounds, bound ≤ records.length := by exact List.forall_mem_nil _
  deriving DecidableEq, Repr

/-- Cuts a list behind each bound, where `position` counts the items before the list. -/
def cutAt {α : Type} (bounds : List Nat) : (position : Nat) → List α → List (List α)
  | _, [] => []
  | position, item :: rest =>
    match cutAt bounds (position + 1) rest with
    | [] => [[item]]
    | batch :: batches =>
      if position + 1 ∈ bounds then [item] :: batch :: batches
      else (item :: batch) :: batches

theorem flatten_cutAt {α : Type} (bounds : List Nat) (position : Nat) (items : List α) :
    (cutAt bounds position items).flatten = items := by
  induction items generalizing position with
  | nil => rfl
  | cons item rest ih =>
    rw [cutAt]
    have h := ih (position + 1)
    split
    · simp_all
    · split <;> simp_all

theorem ne_nil_of_mem_cutAt {α : Type} {bounds : List Nat} {position : Nat} {items batch : List α}
    (h : batch ∈ cutAt bounds position items) : batch ≠ [] := by
  induction items generalizing position batch with
  | nil => simp [cutAt] at h
  | cons item rest ih =>
    rw [cutAt] at h
    split at h
    · simp_all
    · next first batches hc =>
      have hr : ∀ b ∈ first :: batches, b ≠ [] := fun b hb => ih (hc ▸ hb)
      split at h <;> grind

namespace Draft

def add (draft : Draft) (record : Record) : Draft where
  records := draft.records ++ [record]
  bounds := draft.bounds
  increasing := draft.increasing
  within bound member := by
    have := draft.within bound member
    rw [List.length_append, List.length_singleton]
    omega

/-- Only the last bound can be the number of all records. -/
theorem lt_length_of_open {draft : Draft}
    (notLast : draft.bounds.getLast? ≠ some draft.records.length) :
    ∀ bound ∈ draft.bounds, bound < draft.records.length := by
  intro bound member
  refine Nat.lt_of_le_of_ne (draft.within bound member) fun full => notLast ?_
  obtain ⟨before, after, parts⟩ := List.append_of_mem (full ▸ member)
  have increasing := draft.increasing
  rw [parts, List.pairwise_append, List.pairwise_cons] at increasing
  cases after with
  | nil => rw [parts, List.getLast?_concat]
  | cons later rest =>
    have above := increasing.2.1.1 later List.mem_cons_self
    have within := draft.within later (by simp [parts])
    omega

/-- Closes the open batch. Closing twice at the same place changes nothing. -/
def close (draft : Draft) : Draft :=
  if closed : draft.bounds.getLast? = some draft.records.length then draft
  else {
    records := draft.records
    bounds := draft.bounds ++ [draft.records.length]
    increasing := by
      rw [List.pairwise_append]
      refine ⟨draft.increasing, List.pairwise_singleton _ _, fun bound member last same => ?_⟩
      exact List.mem_singleton.1 same ▸ lt_length_of_open closed bound member
    within := by
      intro bound member
      rcases List.mem_append.1 member with before | last
      · exact draft.within bound before
      · exact Nat.le_of_eq (List.mem_singleton.1 last) }

/-- The number of segments: the places but the very beginning where a batch ends, the end of
the records included. -/
def segmentCount (draft : Draft) : Nat := draft.close.bounds.countP (0 < ·)

def batches (draft : Draft) : List (List Record) := cutAt draft.bounds 0 draft.records

def schema (draft : Draft) : Except TypeConflict Schema := Schema.ofRecords draft.records

end Draft

inductive Store where
  | intact
  /-- The store is gone, so the index does not open. -/
  | missing
  /-- The index opens, but no document can be read. -/
  | zeroed
  deriving DecidableEq, Repr

/-- What the files of an index hold. -/
structure Manifest where
  schema : Schema
  /-- The records of each commit, in the order of the commits. -/
  batches : List (List Record)
  store : Store := .intact
  /-- The content of the file that makes a directory an index. -/
  text : Bytes := []
  deriving DecidableEq, Repr

end ArtifactGroups.Index
