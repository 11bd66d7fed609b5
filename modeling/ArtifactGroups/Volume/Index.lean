import ArtifactGroups.Index.Library

/-! Indexes in a volume: a directory is an index when its manifest is in place. -/
namespace ArtifactGroups.Volume

open Index

def manifestName : String := "meta.json"

inductive WriteError where
  | conflict (conflict : TypeConflict)
  | alreadyExists
  | noDirectory
  deriving DecidableEq

/-- Writes a draft as a new index. The types of its fields are checked before the directory
is looked at, and an index that is there already stays. -/
def writeIndex (volume : Volume) (draft : Draft) (path : String)
    (library : Library := .observed) : Except WriteError Volume := do
  let schema ← draft.schema.mapError .conflict
  match volume.directory? path with
  | none => .error .noDirectory
  | some place =>
    let place := place ++ [manifestName]
    if (volume.entryAt? place).isSome then .error .alreadyExists
    else .ok (volume.put place (library.commit schema draft.batches))

def openIndex (volume : Volume) (path : String) (library : Library := .observed) :
    Except Error Snapshot :=
  match volume.directory? path with
  | none => .error (.noIndex path)
  | some place =>
    match library.attach (volume.entryAt? (place ++ [manifestName])) with
    | .ok searcher => .ok ⟨path, searcher⟩
    | .error reason => .error (.unreadableIndex path reason)

inductive Damage where
  | manifestRemoved
  | manifestGarbled
  | manifestEmptied
  | storeRemoved
  | storeZeroed
  deriving DecidableEq, Repr

/-- Damages an index. Without segments there are no stored documents to lose. -/
def damageIndex (volume : Volume) (path : String) (damage : Damage) : Volume :=
  match volume.directory? path with
  | none => volume
  | some place =>
    let place := place ++ [manifestName]
    let setStore (store : Store) : Volume :=
      match volume.entryAt? place with
      | some (.manifest manifest) =>
        if manifest.batches.isEmpty then volume
        else volume.put place (.manifest { manifest with store })
      | _ => volume
    match damage with
    | .manifestRemoved => volume.remove place
    | .manifestGarbled => volume.put place (.file (Text.utf8 "garbage"))
    | .manifestEmptied => volume.put place (.file [])
    | .storeRemoved => setStore .missing
    | .storeZeroed => setStore .zeroed

end ArtifactGroups.Volume
