import ArtifactGroups.Volume.Index

/-! A new entry in a volume, at a place that is no directory. It is found there, all other places
are as they were, and every path leads where it led: a file that is written can be read back, and
an index that was written into a directory opens. -/
namespace ArtifactGroups.Volume

variable {volume : Volume} {place : Place}

theorem lookup_filter_ne {other : Place} (apart : other ≠ place)
    (entries : List (Place × Entry)) :
    (entries.filter (·.1 != place)).lookup other = entries.lookup other := by
  induction entries with
  | nil => rfl
  | cons item rest ih =>
    obtain ⟨here, entry⟩ := item
    by_cases same : here = place
    · subst same
      rw [List.filter_cons_of_neg (by simp), ih, List.lookup_cons, beq_false_of_ne apart]
    · rw [List.filter_cons_of_pos (by simpa using same), List.lookup_cons, List.lookup_cons, ih]

theorem entryAt?_put (noDirectory : volume.entryAt? place ≠ some .directory) (entry : Entry)
    (other : Place) :
    (volume.put place entry).entryAt? other =
      if other = place then some entry else volume.entryAt? other := by
  unfold entryAt? at noDirectory ⊢
  split at noDirectory
  next => exact absurd rfl noDirectory
  next outside =>
    by_cases same : other = place
    · subst same
      have outside' : ¬other.isPrefixOf (volume.put other entry).workingDirectory = true := outside
      rw [if_neg outside', put, List.lookup_cons_self]
      exact (if_pos rfl).symm
    · rw [if_neg same, put, List.lookup_cons, beq_false_of_ne same, lookup_filter_ne same]

/-- The directories of this volume are directories of the other, too. -/
structure KeepsDirectories (volume other : Volume) : Prop where
  workingDirectory : other.workingDirectory = volume.workingDirectory
  directories : ∀ place, volume.entryAt? place = some .directory →
    other.entryAt? place = some .directory

theorem keepsDirectories_put (noDirectory : volume.entryAt? place ≠ some .directory)
    (entry : Entry) : volume.KeepsDirectories (volume.put place entry) := by
  refine ⟨rfl, fun other there => ?_⟩
  rw [entryAt?_put noDirectory]
  split
  next same =>
    rw [same] at there
    exact absurd there noDirectory
  next => exact there

theorem KeepsDirectories.requireDirectory {other : Volume} (kept : volume.KeepsDirectories other)
    (ok : volume.requireDirectory place = .ok ()) : other.requireDirectory place = .ok () := by
  unfold Volume.requireDirectory at ok ⊢
  split at ok
  next there => rw [kept.directories _ there]
  next => contradiction
  next => contradiction

theorem KeepsDirectories.follow {other : Volume} (kept : volume.KeepsDirectories other)
    {names : List String} {final : Place} (ok : volume.follow place names = .ok final) :
    other.follow place names = .ok final := by
  induction names generalizing place with
  | nil => exact ok
  | cons name rest ih =>
    rw [Volume.follow] at ok ⊢
    cases here : volume.requireDirectory place with
    | error fault => simp [here, bind, Except.bind] at ok
    | ok =>
      rw [kept.requireDirectory here]
      rw [here] at ok
      simp only [bind, Except.bind] at ok ⊢
      split
      next stay =>
        rw [if_pos stay] at ok
        exact ih ok
      next move =>
        rw [if_neg move] at ok
        split
        next up =>
          rw [if_pos up] at ok
          exact ih ok
        next down =>
          rw [if_neg down] at ok
          split
          next long =>
            rw [if_pos long] at ok
            contradiction
          next short =>
            rw [if_neg short] at ok
            exact ih ok

theorem KeepsDirectories.resolve {other : Volume} (kept : volume.KeepsDirectories other)
    {path : String} (ok : volume.resolve path = .ok place) : other.resolve path = .ok place := by
  have names : other.names path = volume.names path := by
    unfold Volume.names
    rw [kept.workingDirectory]
  unfold Volume.resolve at ok ⊢
  rw [names]
  cases parsed : volume.names path with
  | error fault => simp [parsed, bind, Except.bind] at ok
  | ok parts =>
    rw [parsed] at ok
    exact kept.follow ok

theorem directory?_eq_some_iff {path : String} :
    volume.directory? path = some place ↔
      volume.resolve path = .ok place ∧ volume.entryAt? place = some .directory := by
  unfold directory? find
  cases volume.resolve path with
  | error fault => simp [bind, Except.bind]
  | ok found =>
    simp only [bind, Except.bind, Except.ok.injEq]
    constructor
    · intro named
      split at named
      next other same =>
        obtain rfl := Option.some.inj named
        split at same
        next entry there =>
          obtain ⟨rfl, rfl⟩ := Prod.mk.inj (Except.ok.inj same)
          exact ⟨rfl, there⟩
        next => contradiction
      next => contradiction
    · rintro ⟨rfl, there⟩
      rw [there]

theorem KeepsDirectories.directory? {other : Volume} (kept : volume.KeepsDirectories other)
    {path : String} (there : volume.directory? path = some place) :
    other.directory? path = some place := by
  rw [directory?_eq_some_iff] at there ⊢
  exact ⟨kept.resolve there.1, kept.directories _ there.2⟩

/-- A file can only be created where its path leads, and over no directory. -/
theorem resolve_of_fileToCreate {path : String} (creatable : volume.fileToCreate path = .ok place) :
    volume.resolve path = .ok place ∧ volume.entryAt? place ≠ some .directory := by
  unfold fileToCreate at creatable
  unfold resolve
  cases parsed : volume.names path with
  | error fault => simp [parsed, bind, Except.bind] at creatable
  | ok parts =>
    simp only [parsed, bind, Except.bind] at creatable ⊢
    split at creatable
    next =>
      -- A slash at the end asks for a directory, and there is no way to create one.
      split at creatable
      next => contradiction
      next parent _ => cases here : volume.requireDirectory parent <;> simp [here] at creatable
    next =>
      split at creatable
      next => contradiction
      next found followed =>
        split at creatable
        next => contradiction
        next noDirectory =>
          obtain rfl := Except.ok.inj creatable
          exact ⟨followed, noDirectory⟩

theorem read_put {path : String} (creatable : volume.fileToCreate path = .ok place)
    (content : Bytes) : (volume.put place (.file content)).read path = .ok (.ok content) := by
  obtain ⟨leads, noDirectory⟩ := resolve_of_fileToCreate creatable
  have stillLeads := (keepsDirectories_put noDirectory (.file content)).resolve leads
  have there : (volume.put place (.file content)).entryAt? place = some (.file content) := by
    rw [entryAt?_put noDirectory, if_pos rfl]
  simp only [read, find, stillLeads, bind, Except.bind, there]

section Writing

open Index

variable {draft : Draft} {path : String} {library : Library}

theorem writeIndex_of_conflict {conflict : TypeConflict} (typed : draft.schema = .error conflict) :
    volume.writeIndex draft path library = .error (.conflict conflict) := by
  rw [writeIndex, typed]
  rfl

theorem writeIndex_of_schema {schema : Schema} (typed : draft.schema = .ok schema) :
    volume.writeIndex draft path library =
      match volume.directory? path with
      | none => .error .noDirectory
      | some place =>
        if (volume.entryAt? (place ++ [manifestName])).isSome then .error .alreadyExists
        else .ok (volume.put (place ++ [manifestName]) (library.commit schema draft.batches)) := by
  rw [writeIndex, typed]
  rfl

/-- What a successful writing did: the draft has a schema, and its batches are committed in a
directory that had no index. -/
theorem writeIndex_eq_ok_iff {written : Volume} :
    volume.writeIndex draft path library = .ok written ↔
      ∃ schema place, draft.schema = .ok schema ∧ volume.directory? path = some place ∧
        volume.entryAt? (place ++ [manifestName]) = none ∧
        written = volume.put (place ++ [manifestName]) (library.commit schema draft.batches) := by
  cases typed : draft.schema with
  | error conflict => simp [writeIndex_of_conflict typed]
  | ok schema =>
    rw [writeIndex_of_schema typed]
    cases there : volume.directory? path with
    | none => simp
    | some place =>
      cases entry : volume.entryAt? (place ++ [manifestName]) with
      | none => simp [entry, eq_comm]
      | some entry => simp [entry]

/-- What was committed is what the library finds when the index is opened. -/
theorem openIndex_of_writeIndex {written : Volume}
    (done : volume.writeIndex draft path library = .ok written) :
    ∃ schema, draft.schema = .ok schema ∧ ∀ searcher,
      library.attach (some (library.commit schema draft.batches)) = .ok searcher →
        written.openIndex path library = .ok ⟨path, searcher⟩ := by
  obtain ⟨schema, place, typed, there, free, rfl⟩ := writeIndex_eq_ok_iff.1 done
  have noDirectory : volume.entryAt? (place ++ [manifestName]) ≠ some .directory := by simp [free]
  have kept := (keepsDirectories_put noDirectory
    (library.commit schema draft.batches)).directory? there
  refine ⟨schema, typed, fun searcher attached => ?_⟩
  rw [openIndex, kept]
  simp only [entryAt?_put noDirectory, if_true, attached]

end Writing

end ArtifactGroups.Volume
