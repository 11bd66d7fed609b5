import ArtifactGroups.Index.Snapshot
import ArtifactGroups.Proofs.Extraction

/-! The fields of a document that comes back from an index: grouped by name, and otherwise as
they were added. A look-up by name cannot tell the two orders apart, and so neither can what is
extracted. -/
namespace ArtifactGroups

namespace Index

/-- The values are those of the record, grouped by name: names do not decrease in byte order, and
the values of one name are the added ones in their order. -/
structure Grouped (record values : Record) : Prop where
  sorted : values.Pairwise fun s t => ¬Text.utf8 t.1 < Text.utf8 s.1
  values : ∀ name, values.filter (·.1 = name) = record.filter (·.1 = name)

/-- The fields are those of the record, stably sorted by name in byte order: names do not
decrease, and the values of one name are the added ones in their order. -/
structure GroupedByName (record : Record) (fields : List Field) : Prop where
  sorted : fields.Pairwise fun s t => ¬Text.utf8 t.name < Text.utf8 s.name
  values : ∀ name, fields.filter (·.name = name) = (namedFields record).filter (·.name = name)

theorem filter_namedFields (record : Record) (name : String) :
    (namedFields record).filter (·.name = name) = namedFields (record.filter (·.1 = name)) := by
  rw [namedFields, List.filter_map]
  rfl

theorem Grouped.fields {record values : Record} (grouped : Grouped record values) :
    GroupedByName record (namedFields values) where
  sorted := List.pairwise_map.2 grouped.sorted
  values name := by rw [filter_namedFields, filter_namedFields, grouped.values]

theorem not_lt_head {field : Field} {rest : List Field} {name : String}
    (sorted : (field :: rest).Pairwise fun s t => ¬Text.utf8 t.name < Text.utf8 s.name)
    (member : ∃ other ∈ field :: rest, other.name = name) :
    ¬Text.utf8 name < Text.utf8 field.name := by
  obtain ⟨other, inside, rfl⟩ := member
  rcases List.mem_cons.1 inside with rfl | later
  · exact List.lt_irrefl _
  · exact (List.pairwise_cons.1 sorted).1 other later

theorem eq_of_sorted_of_filter_eq {fields others : List Field}
    (sorted : fields.Pairwise fun s t => ¬Text.utf8 t.name < Text.utf8 s.name)
    (sorted' : others.Pairwise fun s t => ¬Text.utf8 t.name < Text.utf8 s.name)
    (same : ∀ name, fields.filter (·.name = name) = others.filter (·.name = name)) :
    fields = others := by
  have occurs (field : Field) : field ∈ fields ↔ field ∈ others := by
    simpa using congrArg (field ∈ ·) (same field.name)
  induction fields generalizing others with
  | nil =>
    refine (List.eq_nil_iff_forall_not_mem.2 fun field member => ?_).symm
    exact absurd ((occurs field).2 member) List.not_mem_nil
  | cons field rest ih =>
    cases others with
    | nil => exact absurd ((occurs field).1 List.mem_cons_self) List.not_mem_nil
    | cons other later =>
      have names : field.name = other.name := by
        have le := not_lt_head sorted' ⟨field, (occurs field).1 List.mem_cons_self, rfl⟩
        have ge := not_lt_head sorted ⟨other, (occurs other).2 List.mem_cons_self, rfl⟩
        exact Text.utf8_injective (List.le_antisymm (List.not_lt.1 ge) (List.not_lt.1 le))
      have first := same field.name
      rw [List.filter_cons_of_pos (by simp), List.filter_cons_of_pos (by simp [names])] at first
      obtain ⟨rfl, -⟩ := List.cons.inj first
      have further (name : String) :
          rest.filter (·.name = name) = later.filter (·.name = name) := by
        have all := same name
        rw [List.filter_cons, List.filter_cons] at all
        split at all
        next => exact (List.cons.inj all).2
        next => exact all
      have equal := ih (List.pairwise_cons.1 sorted).2 (List.pairwise_cons.1 sorted').2 further
        fun item => by simpa using congrArg (item ∈ ·) (further item.name)
      rw [equal]

theorem GroupedByName.unique {record : Record} {fields others : List Field}
    (grouped : GroupedByName record fields) (grouped' : GroupedByName record others) :
    fields = others :=
  eq_of_sorted_of_filter_eq grouped.sorted grouped'.sorted fun name =>
    (grouped.values name).trans (grouped'.values name).symm

end Index

namespace Document

theorem text?_eq (doc : Document) (name : String) :
    doc.text? name = (doc.fields.filter (·.name = name)).findSome? (·.value.text?) := by
  rw [text?]
  induction doc.fields with
  | nil => rfl
  | cons field rest ih =>
    rw [List.findSome?_cons, ih]
    by_cases same : field.name = name
    · simp [same, List.findSome?_cons]
    · simp [same]

theorem coordinate?_congr {doc other : Document} (same : ∀ name, doc.text? name = other.text? name)
    (names : FieldNames) : doc.coordinate? names = other.coordinate? names :=
  coordinate?_eq_of_texts (same _) (same _) (same _)

end Document

/-- Grouping the fields never changes which value of a name is found. -/
theorem Index.GroupedByName.text?_eq {record : Record} {fields : List Field}
    (grouped : GroupedByName record fields) (ordinal : Nat) (name : String) :
    (⟨ordinal, fields⟩ : Document).text? name =
      (⟨ordinal, namedFields record⟩ : Document).text? name := by
  rw [Document.text?_eq, Document.text?_eq, grouped.values]

end ArtifactGroups
