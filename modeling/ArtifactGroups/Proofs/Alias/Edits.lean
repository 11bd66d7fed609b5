import ArtifactGroups.Alias.Json
import ArtifactGroups.Proofs.Alias.Table

/-! A table through any number of edits, which enter a group or load a JSON text. At any time it is
a map in the byte order of its artifacts, whatever the texts hold, and what it maps decides its
written form. -/
namespace ArtifactGroups.Alias

namespace Table

/-- One change that is asked of a table, with or without effect. -/
inductive Edit where
  | enter (artifact group : String)
  | load (bytes : Bytes)

def edit (table : Table) : Edit → Table
  | .enter artifact group => (table.enter artifact group).1
  | .load bytes => (table.loadJson bytes).1

def editAll (table : Table) (edits : List Edit) : Table := edits.foldl edit table

def artifacts (table : Table) : List String := table.entries.map Prod.fst

variable {table other : Table}

theorem get?_eq_none_iff {artifact : String} :
    table.get? artifact = none ↔ artifact ∉ table.artifacts := by
  rw [get?, List.lookup_eq_none_iff, artifacts, List.mem_map]
  constructor
  · rintro others ⟨entry, inside, rfl⟩
    simpa using others entry inside
  · intro absent entry inside
    simpa using fun same : artifact = entry.1 => absent ⟨entry, inside, same.symm⟩

theorem enter_of_mem {artifact : String} (known : artifact ∈ table.artifacts) (group : String) :
    table.enter artifact group = (table, false) := by
  have found : table.get? artifact ≠ none := fun absent => get?_eq_none_iff.1 absent known
  rw [enter, contains, Option.isSome_iff_ne_none.2 found, if_pos rfl]

theorem enter_of_not_mem {artifact : String} (new : artifact ∉ table.artifacts) (group : String) :
    table.enter artifact group = (table.insert artifact group, true) := by
  rw [enter, contains, get?_eq_none_iff.2 new]
  rfl

theorem pairwise_utf8 (table : Table) : (table.artifacts.map Text.utf8).Pairwise (· < ·) := by
  rw [artifacts, List.map_map, List.pairwise_map]
  exact table.ordered.imp Text.precedes_iff.1

theorem nodup_artifacts (table : Table) : table.artifacts.Nodup :=
  List.pairwise_map.2 table.distinct

/-- A table after any edits: its artifacts increase in byte order, a look-up finds just its entries,
and an artifact is entered exactly if it is new, with no other effect. A text that cannot be loaded
changes nothing. Two tables that map the same have the same written form, byte by byte. -/
theorem editAll_sorted (start : Table) (edits : List Edit) :
    let table := start.editAll edits
    (table.artifacts.map Text.utf8).Pairwise (· < ·) ∧ table.artifacts.Nodup ∧
    table.size = table.entries.length ∧ (table.isEmpty = true ↔ table.size = 0) ∧
    (∀ artifact group, table.get? artifact = some group ↔ (artifact, group) ∈ table.entries) ∧
    (∀ artifact group,
      ((table.enter artifact group).2 = true ↔ artifact ∉ table.artifacts) ∧
      (artifact ∉ table.artifacts → ∀ key, (table.enter artifact group).1.get? key =
        if key = artifact then some group else table.get? key) ∧
      (artifact ∈ table.artifacts → (table.enter artifact group).1 = table)) ∧
    (∀ bytes, (table.loadJson bytes).2 = false → (table.loadJson bytes).1 = table) ∧
    ∀ (start' : Table) (edits' : List Edit),
      (∀ artifact, table.get? artifact = (start'.editAll edits').get? artifact) →
        Text.utf8 table.toJson = Text.utf8 (start'.editAll edits').toJson := by
  intro table
  refine ⟨table.pairwise_utf8, table.nodup_artifacts, rfl, ?_,
    fun artifact group => lookup_eq_some_iff_mem table.distinct, ?_, ?_, ?_⟩
  · rw [isEmpty, size, List.isEmpty_iff, List.length_eq_zero_iff]
  · intro artifact group
    by_cases known : artifact ∈ table.artifacts
    · rw [enter_of_mem known]
      exact ⟨by simp [known], fun new => absurd known new, fun _ => rfl⟩
    · refine ⟨by simp [enter_of_not_mem known, known], fun _ key => ?_, fun old => absurd old known⟩
      rw [enter_of_not_mem known, get?_insert]
  · intro bytes failed
    rw [loadJson] at failed ⊢
    split at failed
    next => contradiction
    next refused => rfl
  · intro start' edits' same
    rw [eq_of_get?_eq same]

/-- A text with its keys out of order and one of them twice, a text that is cut off, and an
artifact that is there already. -/
theorem editAll_sorted_duplicate_key :
    let text := "\x7b\"é-x\":\"g1\",\"b-x\":\"g2\",\"é-x\":\"g3\"\x7d"
    let edits : List Edit := [.load (Text.utf8 text), .enter "b-x" "g4", .load [0x7B],
      .enter "a-x" "g5"]
    let others : List Edit := [.enter "é-x" "g3", .enter "a-x" "g5", .enter "b-x" "g2"]
    let table := seeded.editAll edits
    table.artifacts = ["a-x", "b-x", "é-x"] ∧ (table.enter "b-x" "g6").2 = false ∧
      (table.enter "b-x" "g6").1 = table ∧ (table.loadJson [0xFF]).1 = table ∧
      Text.utf8 table.toJson = Text.utf8 (empty.editAll others).toJson := by
  intro text edits others table
  obtain ⟨-, -, -, -, -, entered, loaded, written⟩ := editAll_sorted seeded edits
  have entries : table.entries = [("a-x", "g5"), ("b-x", "g2"), ("é-x", "g3")] := by
    decide +kernel
  have entries' : (empty.editAll others).entries = table.entries := by decide +kernel
  have artifacts : table.artifacts = ["a-x", "b-x", "é-x"] := by rw [Table.artifacts, entries]; rfl
  have known : "b-x" ∈ table.artifacts := by rw [artifacts]; decide
  refine ⟨artifacts, ?_, (entered _ _).2.2 known, loaded _ (by decide +kernel),
    written empty others fun artifact => by rw [get?, get?, entries']⟩
  exact Bool.eq_false_iff.2 fun new => (entered _ _).1.1 new known

end Table

end ArtifactGroups.Alias
