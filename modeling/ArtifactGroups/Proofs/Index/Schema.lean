import ArtifactGroups.Index.Schema

/-! When a list of records has a schema: exactly if no name is used with two types, where the
coordinate fields count as used with text. -/
namespace ArtifactGroups.Index

def typed (entry : String × Value) : String × ValueType := (entry.1, entry.2.type)

/-- All uses of names with types, those in the base schema first. -/
def uses (records : List Record) : List (String × ValueType) :=
  Schema.base ++ records.flatten.map typed

/-- No name is used with two types. -/
def Consistent (records : List Record) : Prop :=
  ∀ use ∈ uses records, ∀ other ∈ uses records, use.1 = other.1 → use.2 = other.2

instance (records : List Record) : Decidable (Consistent records) :=
  inferInstanceAs (Decidable (∀ _ ∈ _, ∀ _ ∈ _, _ → _))

namespace Schema

theorem lookup_append_of_some {schema : Schema} {name : String} {type : ValueType}
    (declared : schema.lookup name = some type) (later : Schema) :
    (schema ++ later).lookup name = some type := by
  rw [List.lookup_append, declared, Option.some_or]

/-- Declaring succeeds if every value has the type of the first use of its name. -/
theorem foldlM_declare_ok_iff (schema : Schema) (entries : List (String × Value)) :
    (∃ final, entries.foldlM declare schema = .ok final) ↔
      ∀ entry ∈ entries,
        (schema ++ entries.map typed).lookup entry.1 = some entry.2.type := by
  induction entries generalizing schema with
  | nil => simp [pure, Except.pure]
  | cons entry rest ih =>
    rw [List.foldlM_cons, declare, type?]
    cases declared : schema.lookup entry.1 with
    | none =>
      -- The new declaration is the first use of its name, also in the whole list.
      have list : schema ++ (entry :: rest).map typed =
          (schema ++ [(entry.1, entry.2.type)]) ++ rest.map typed := by
        simp [typed]
      have own : (schema ++ [(entry.1, entry.2.type)]).lookup entry.1 = some entry.2.type := by
        simp [List.lookup_append, declared]
      rw [list, List.forall_mem_cons]
      simp only [lookup_append_of_some own, true_and]
      exact ih _
    | some type =>
      have own := lookup_append_of_some declared ((entry :: rest).map typed)
      rw [List.forall_mem_cons, own, Option.some.injEq]
      by_cases same : type = entry.2.type
      · have skip (name : String) : (schema ++ (entry :: rest).map typed).lookup name =
            (schema ++ rest.map typed).lookup name := by
          rw [List.map_cons, List.lookup_append, List.lookup_append, List.lookup_cons]
          cases equal : name == (typed entry).1 with
          | false => rfl
          | true =>
            rw [eq_of_beq equal]
            simp [typed, declared]
        simp only [same, if_true, true_and, skip]
        exact ih schema
      · simp [same, bind, Except.bind]

theorem lookup_base_of_mem {use : String × ValueType} (member : use ∈ base) :
    base.lookup use.1 = some use.2 := by
  simp only [base, List.mem_cons, List.not_mem_nil, or_false] at member
  rcases member with rfl | rfl | rfl <;> rfl

theorem ofRecords_ok_iff (records : List Record) :
    (∃ schema, ofRecords records = .ok schema) ↔ Consistent records := by
  rw [ofRecords, foldlM_declare_ok_iff]
  constructor
  · intro first
    have unique : ∀ use ∈ uses records, (uses records).lookup use.1 = some use.2 := by
      intro use member
      rcases List.mem_append.1 member with declared | used
      · exact lookup_append_of_some (lookup_base_of_mem declared) _
      · obtain ⟨entry, inside, rfl⟩ := List.mem_map.1 used
        exact first entry inside
    intro use member other member' same
    have found := unique use member
    rw [same, unique other member'] at found
    exact (Option.some.inj found).symm
  · intro consistent entry inside
    have member : typed entry ∈ uses records :=
      List.mem_append_right _ (List.mem_map_of_mem inside)
    have used : ((uses records).lookup entry.1).isSome :=
      List.lookup_isSome_iff.2 ⟨typed entry, member, beq_self_eq_true _⟩
    obtain ⟨type, found⟩ := Option.isSome_iff_exists.1 used
    obtain ⟨before, after, parts, -⟩ := List.lookup_eq_some_iff.1 found
    have first : (entry.1, type) ∈ uses records := by simp [parts]
    have same : type = entry.2.type := consistent _ first _ member rfl
    rw [← same]
    exact found

end Schema

end ArtifactGroups.Index
