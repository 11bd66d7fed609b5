import ArtifactGroups.Text.Order

/-! The alias table: which group stands behind an artifact. Entries are kept in the byte order
of the artifacts, each artifact once. -/
namespace ArtifactGroups.Alias

structure Table where
  /-- Artifacts with their groups. -/
  entries : List (String × String) := []
  ordered : entries.Pairwise fun earlier later => Text.precedes earlier.1 later.1 = true := by
    decide +kernel
  deriving DecidableEq, Repr

namespace Table

def empty : Table := {}

def get? (table : Table) (artifact : String) : Option String :=
  table.entries.lookup artifact

def contains (table : Table) (artifact : String) : Bool := (table.get? artifact).isSome

def size (table : Table) : Nat := table.entries.length

def isEmpty (table : Table) : Bool := table.entries.isEmpty

def insertEntry (artifact group : String) : List (String × String) → List (String × String)
  | [] => [(artifact, group)]
  | entry :: rest =>
    if artifact = entry.1 then (artifact, group) :: rest
    else if Text.precedes artifact entry.1 then (artifact, group) :: entry :: rest
    else entry :: insertEntry artifact group rest

theorem mem_of_mem_insertEntry {artifact group : String} {entries : List (String × String)}
    {entry : String × String} (member : entry ∈ insertEntry artifact group entries) :
    entry = (artifact, group) ∨ entry ∈ entries := by
  induction entries with
  | nil => exact .inl (by simpa [insertEntry] using member)
  | cons first rest ih =>
    rw [insertEntry] at member
    split at member
    next =>
      rcases List.mem_cons.1 member with here | later
      · exact .inl here
      · exact .inr (List.mem_cons_of_mem _ later)
    next =>
      split at member
      next => exact List.mem_cons.1 member
      next =>
        rcases List.mem_cons.1 member with here | later
        · exact .inr (here ▸ List.mem_cons_self)
        · exact (ih later).imp_right (List.mem_cons_of_mem _)

theorem ordered_insertEntry (artifact group : String) {entries : List (String × String)}
    (ordered : entries.Pairwise fun earlier later => Text.precedes earlier.1 later.1 = true) :
    (insertEntry artifact group entries).Pairwise fun earlier later =>
      Text.precedes earlier.1 later.1 = true := by
  induction entries with
  | nil => simp [insertEntry]
  | cons entry rest ih =>
    obtain ⟨first, later⟩ := List.pairwise_cons.1 ordered
    simp only [insertEntry]
    by_cases same : artifact = entry.1
    · subst same
      simpa using ⟨fun a b => first (a, b), later⟩
    by_cases before : Text.precedes artifact entry.1 = true
    · simp only [if_neg same, if_pos before]
      apply List.Pairwise.cons _ ordered
      intro further member
      rcases List.mem_cons.1 member with rfl | inside
      · exact before
      · exact Text.precedes_trans before (first further inside)
    · simp only [if_neg same, if_neg before]
      apply List.Pairwise.cons _ (ih later)
      intro further member
      rcases mem_of_mem_insertEntry member with rfl | inside
      · exact Text.precedes_of_ne same before
      · exact first further inside

def insert (table : Table) (artifact group : String) : Table :=
  ⟨insertEntry artifact group table.entries, ordered_insertEntry artifact group table.ordered⟩

/-- The first group given for an artifact stays. Also answers whether this one was the first. -/
def enter (table : Table) (artifact group : String) : Table × Bool :=
  if table.contains artifact then (table, false) else (table.insert artifact group, true)

def insertIfNew (table : Table) (artifact group : String) : Table :=
  (table.enter artifact group).1

/-- Of several groups for one artifact the last one stays. -/
def ofMembers (members : List (String × String)) : Table :=
  members.foldl (fun table (artifact, group) => table.insert artifact group) empty

/-- Aliases known before any input: bundles whose name differs from their artifact. -/
def seeds : List (String × String) := [("spring.boot", "org.springframework.boot")]

def seeded : Table := ofMembers seeds

theorem lookup_entry (entry : String × String) (rest : List (String × String)) (key : String) :
    (entry :: rest).lookup key = if key = entry.1 then some entry.2 else rest.lookup key := by
  obtain ⟨artifact, group⟩ := entry
  by_cases h : key = artifact
  · simp [h]
  · rw [List.lookup_cons]
    simp [beq_false_of_ne h, h]

theorem lookup_insertEntry (artifact group key : String) (entries : List (String × String)) :
    (insertEntry artifact group entries).lookup key =
      if key = artifact then some group else entries.lookup key := by
  induction entries with
  | nil => simp [insertEntry]
  | cons entry rest ih =>
    rw [insertEntry]
    split
    · simp only [lookup_entry]
      grind
    · split
      · rw [lookup_entry]
      · simp only [lookup_entry, ih]
        grind

theorem get?_insert (table : Table) (artifact group key : String) :
    (table.insert artifact group).get? key =
      if key = artifact then some group else table.get? key :=
  lookup_insertEntry artifact group key table.entries

end Table

end ArtifactGroups.Alias
