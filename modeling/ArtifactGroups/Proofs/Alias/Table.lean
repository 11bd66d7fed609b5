import ArtifactGroups.Alias.Table

/-! Alias tables as maps. The artifacts of a table increase, so each has one entry, and the look-ups
say all about it. -/
namespace ArtifactGroups

namespace Alias.Table

variable {table other : Table} {entries : List (String × String)}

/-- Of several groups for an artifact the last one counts. -/
theorem get?_ofMembers (members : List (String × String)) (artifact : String) :
    (ofMembers members).get? artifact = members.reverse.lookup artifact := by
  have each (start : Table) :
      (members.foldl (fun table entry => table.insert entry.1 entry.2) start).get? artifact =
        (members.reverse.lookup artifact).or (start.get? artifact) := by
    induction members generalizing start with
    | nil => simp
    | cons entry rest ih =>
      rw [List.foldl_cons, ih, get?_insert, List.reverse_cons, List.lookup_append, Option.or_assoc,
        lookup_entry, List.lookup_nil]
      split <;> simp
  exact (each empty).trans Option.or_none

theorem lookup_eq_some_iff_mem (distinct : entries.Pairwise fun s t => s.1 ≠ t.1)
    {artifact group : String} :
    entries.lookup artifact = some group ↔ (artifact, group) ∈ entries := by
  induction entries with
  | nil => simp
  | cons entry rest ih =>
    obtain ⟨first, later⟩ := List.pairwise_cons.1 distinct
    rw [lookup_entry]
    by_cases same : artifact = entry.1
    · subst same
      have once : (entry.1, group) ∉ rest := fun member => first _ member rfl
      simp [once, Prod.ext_iff, eq_comm]
    · simp [same, ih later, Prod.ext_iff]

theorem distinct (table : Table) : table.entries.Pairwise fun s t => s.1 ≠ t.1 :=
  table.ordered.imp Text.ne_of_precedes

theorem eq_of_get?_eq (same : ∀ artifact, table.get? artifact = other.get? artifact) :
    table = other := by
  have nodup (t : Table) : t.entries.Nodup :=
    t.distinct.imp fun apart equal => apart (congrArg Prod.fst equal)
  have members (entry : String × String) : entry ∈ table.entries ↔ entry ∈ other.entries := by
    have found := same entry.1
    simp only [get?] at found
    rw [← lookup_eq_some_iff_mem table.distinct, ← lookup_eq_some_iff_mem other.distinct, found]
  have equal : table.entries = other.entries := by
    apply List.Perm.eq_of_pairwise _ table.ordered other.ordered
    · exact (List.perm_ext_iff_of_nodup (nodup table) (nodup other)).2 members
    · intro s t _ _ before after
      exact absurd rfl (Text.ne_of_precedes (Text.precedes_trans before after))
  cases table
  cases other
  simpa using equal

theorem ofMembers_entries (table : Table) : ofMembers table.entries = table := by
  apply eq_of_get?_eq
  intro artifact
  rw [get?_ofMembers]
  apply Option.ext
  intro group
  have reversed : table.entries.reverse.Pairwise fun s t => s.1 ≠ t.1 :=
    List.pairwise_reverse.2 (table.distinct.imp Ne.symm)
  rw [lookup_eq_some_iff_mem reversed, List.mem_reverse, get?,
    lookup_eq_some_iff_mem table.distinct]

end Alias.Table

end ArtifactGroups
