import ArtifactGroups.Scan
import ArtifactGroups.Proofs.Sink

/-! What a scan has to write and where it may have to stop, said for each ordinal by itself.
Nothing here follows the walk or looks at its streams; the output counts only as the room that
it had before the scan. -/
namespace ArtifactGroups

/-- The first ordinal whose document cannot be fetched, or the total if there is none. -/
def Source.firstUnreadable (source : Source) : Nat :=
  ((List.range source.total).find? fun ordinal => (source.fetch ordinal).toOption.isNone).getD
    source.total

def Source.Readable (source : Source) : Prop :=
  ∀ ordinal < source.total, ∃ document, source.fetch ordinal = .ok document

theorem Source.ofDocuments_readable (location : String) (documents : List Document) :
    (ofDocuments location documents).Readable := by
  intro ordinal below
  refine ⟨documents[ordinal], ?_⟩
  simp only [ofDocuments, List.getElem?_eq_getElem below]

theorem Source.firstUnreadable_spec (source : Source) :
    source.firstUnreadable ≤ source.total ∧
      (∀ ordinal < source.firstUnreadable, ∃ document, source.fetch ordinal = .ok document) ∧
      (source.firstUnreadable < source.total →
        ∃ error, source.fetch source.firstUnreadable = .error error) := by
  have readable (ordinal : Nat) (h : (source.fetch ordinal).toOption.isNone = false) :
      ∃ document, source.fetch ordinal = .ok document := by
    cases fetch : source.fetch ordinal with
    | ok document => exact ⟨document, rfl⟩
    | error => simp [fetch, Except.toOption] at h
  unfold firstUnreadable
  cases found : (List.range source.total).find? fun ordinal =>
      (source.fetch ordinal).toOption.isNone with
  | none =>
    rw [List.find?_range_eq_none] at found
    refine ⟨Nat.le_refl _, fun ordinal below => ?_, fun below => absurd below (Nat.lt_irrefl _)⟩
    exact readable ordinal (by simpa using found ordinal below)
  | some first =>
    obtain ⟨bad, below, earlier⟩ := List.find?_range_eq_some.1 found
    refine ⟨Nat.le_of_lt (List.mem_range.1 below), fun ordinal before => ?_, fun _ => ?_⟩
    · exact readable ordinal (by simpa using earlier ordinal before)
    · rw [Option.getD_some]
      cases fetch : source.fetch first with
      | ok => simp [fetch, Except.toOption] at bad
      | error error => exact ⟨error, rfl⟩

theorem Source.lt_firstUnreadable {source : Source} {ordinal : Nat} (below : ordinal < source.total)
    (readable : ∀ earlier ≤ ordinal, ∃ document, source.fetch earlier = .ok document) :
    ordinal < source.firstUnreadable := by
  obtain ⟨-, -, bad⟩ := source.firstUnreadable_spec
  false_or_by_contra
  rename_i reached
  obtain ⟨error, failed⟩ := bad (by omega)
  obtain ⟨document, fetched⟩ := readable source.firstUnreadable (by omega)
  rw [failed] at fetched
  contradiction

theorem Source.firstUnreadable_eq {source : Source} {ordinal : Nat} {error : Error}
    (below : ordinal < source.total) (failed : source.fetch ordinal = .error error)
    (readable : ∀ earlier < ordinal, ∃ document, source.fetch earlier = .ok document) :
    source.firstUnreadable = ordinal := by
  obtain ⟨-, good, bad⟩ := source.firstUnreadable_spec
  rcases Nat.lt_trichotomy source.firstUnreadable ordinal with before | same | after
  · obtain ⟨document, fetched⟩ := readable _ before
    obtain ⟨other, refused⟩ := bad (by omega)
    rw [refused] at fetched
    contradiction
  · exact same
  · obtain ⟨document, fetched⟩ := good ordinal after
    rw [failed] at fetched
    contradiction

theorem Source.Readable.firstUnreadable_eq {source : Source} (readable : source.Readable) :
    source.firstUnreadable = source.total := by
  obtain ⟨bound, -, bad⟩ := source.firstUnreadable_spec
  rcases Nat.lt_or_eq_of_le bound with below | same
  · obtain ⟨document, fetched⟩ := readable _ below
    obtain ⟨error, failed⟩ := bad below
    rw [failed] at fetched
    contradiction
  · exact same

namespace Scan

/-- One line `group|artifact` for each coordinate. -/
def listing (coordinates : List Coordinate) : String :=
  String.join (coordinates.map fun coordinate => coordinate.shown ++ "\n")

@[simp] theorem listing_nil : listing [] = "" := by simp [listing]

@[simp] theorem listing_append (some more : List Coordinate) :
    listing (some ++ more) = listing some ++ listing more := by
  simp [listing]

theorem utf8_linePieces (coordinate : Coordinate) :
    coordinate.linePieces.flatMap Text.utf8 = Text.utf8 (listing [coordinate]) := by
  have line : listing [coordinate] = coordinate.shown ++ "\n" := by simp [listing]
  rw [line, Coordinate.shown]
  simp only [Coordinate.linePieces, List.flatMap_cons, List.flatMap_nil, Text.utf8_append,
    List.append_nil, List.append_assoc]

variable (source : Source) (options : Options) (out : Sink)

/-- The coordinate listed for an ordinal: its document can be fetched and is a match. -/
def matchAt? (ordinal : Nat) : Option Coordinate :=
  (source.fetch ordinal).toOption.bind options.match?

/-- The coordinates listed for the ordinals below a bound, in increasing order. -/
def matchesBelow (bound : Nat) : List Coordinate :=
  (List.range bound).filterMap (matchAt? source options)

def linesBelow (bound : Nat) : Bytes := Text.utf8 (listing (matchesBelow source options bound))

theorem matchesBelow_succ (bound : Nat) :
    matchesBelow source options (bound + 1) =
      matchesBelow source options bound ++ (matchAt? source options bound).toList := by
  rw [matchesBelow, List.range_succ, List.filterMap_append]
  cases h : matchAt? source options bound <;> simp [matchesBelow, h]

theorem linesBelow_succ (bound : Nat) :
    linesBelow source options (bound + 1) = linesBelow source options bound ++
      Text.utf8 (listing (matchAt? source options bound).toList) := by
  rw [linesBelow, matchesBelow_succ, listing_append, Text.utf8_append, linesBelow]

theorem linesBelow_prefix {bound further : Nat} (le : bound ≤ further) :
    linesBelow source options bound <+: linesBelow source options further := by
  induction le with
  | refl => exact List.prefix_refl _
  | step _ ih =>
    rw [linesBelow_succ]
    exact ih.trans (List.prefix_append ..)

theorem length_matchesBelow_le (bound : Nat) :
    (matchesBelow source options bound).length ≤ bound := by
  simpa [matchesBelow] using
    List.length_filterMap_le (matchAt? source options) (List.range bound)

/-- Why a scan cannot get past an ordinal. -/
inductive Trouble where
  | unreadable (error : Error)
  /-- The output has no room for the line, after all lines before it. -/
  | unwritable
  deriving DecidableEq

/-- The fetch comes before the write. -/
def troubleAt? (ordinal : Nat) : Option Trouble :=
  match source.fetch ordinal with
  | .error error => some (.unreadable error)
  | .ok _ =>
    if out.Fits (linesBelow source options (ordinal + 1)) then none else some .unwritable

def firstTrouble? : Option (Nat × Trouble) :=
  (List.range source.total).findSome? fun ordinal =>
    (troubleAt? source options out ordinal).map (ordinal, ·)

/-- A scan gets past the ordinal: its document can be fetched, and there is room for its line, if
it has one, after all lines before it. -/
def Passes (ordinal : Nat) : Prop :=
  (∃ document, source.fetch ordinal = .ok document) ∧
    out.Fits (linesBelow source options (ordinal + 1))

variable {source options out}

theorem troubleAt?_eq_none_iff {ordinal : Nat} :
    troubleAt? source options out ordinal = none ↔ Passes source options out ordinal := by
  unfold troubleAt? Passes
  cases source.fetch ordinal with
  | error error => simp
  | ok document => simp

theorem troubleAt?_unreadable {ordinal : Nat} {error : Error}
    (trouble : troubleAt? source options out ordinal = some (.unreadable error)) :
    source.fetch ordinal = .error error := by
  unfold troubleAt? at trouble
  split at trouble
  next other fetch =>
    obtain rfl := Trouble.unreadable.inj (Option.some.inj trouble)
    exact fetch
  next => split at trouble <;> simp at trouble

theorem troubleAt?_unwritable {ordinal : Nat}
    (trouble : troubleAt? source options out ordinal = some .unwritable) :
    (∃ document, source.fetch ordinal = .ok document) ∧
      ¬out.Fits (linesBelow source options (ordinal + 1)) := by
  unfold troubleAt? at trouble
  split at trouble
  next => simp at trouble
  next document fetch =>
    split at trouble
    next => contradiction
    next full => exact ⟨⟨document, fetch⟩, full⟩

theorem firstTrouble?_eq_none (smooth : firstTrouble? source options out = none) :
    ∀ ordinal < source.total, Passes source options out ordinal := by
  intro ordinal below
  have here := List.findSome?_eq_none_iff.1 smooth ordinal (List.mem_range.2 below)
  exact troubleAt?_eq_none_iff.1 (Option.map_eq_none_iff.1 here)

theorem firstTrouble?_eq_some {ordinal : Nat} {trouble : Trouble}
    (first : firstTrouble? source options out = some (ordinal, trouble)) :
    ordinal < source.total ∧ troubleAt? source options out ordinal = some trouble ∧
      ∀ earlier < ordinal, Passes source options out earlier := by
  obtain ⟨before, found, after, parts, here, smooth⟩ := List.findSome?_eq_some_iff.1 first
  obtain ⟨other, trouble', same⟩ := Option.map_eq_some_iff.1 here
  obtain ⟨rfl, rfl⟩ := Prod.mk.inj same
  have position : (List.range source.total)[before.length]? = some found := by simp [parts]
  obtain ⟨below, rfl⟩ := List.getElem?_eq_some_iff.1 position
  rw [List.length_range] at below
  rw [List.getElem_range] at trouble' ⊢
  refine ⟨below, trouble', fun earlier lt => ?_⟩
  have member : earlier ∈ before := by
    have at' : (List.range source.total)[earlier]? = before[earlier]? := by
      rw [parts, List.getElem?_append_left lt]
    rw [List.getElem?_range (by omega)] at at'
    exact List.mem_of_getElem? at'.symm
  exact troubleAt?_eq_none_iff.1 (Option.map_eq_none_iff.1 (smooth earlier member))

/-- What the lines up to the first trouble leave in the output is all that the lines of the
readable documents could leave there. -/
theorem kept_of_firstTrouble? {ordinal : Nat} {trouble : Trouble}
    (first : firstTrouble? source options out = some (ordinal, trouble)) :
    out.kept (linesBelow source options (ordinal + 1)) =
      out.kept (linesBelow source options source.firstUnreadable) := by
  obtain ⟨below, here, earlier⟩ := firstTrouble?_eq_some first
  cases trouble with
  | unreadable error =>
    have failed := troubleAt?_unreadable here
    have readable := fun i lt => (earlier i lt).1
    rw [Source.firstUnreadable_eq below failed readable, linesBelow_succ]
    simp [matchAt?, failed, Except.toOption]
  | unwritable =>
    obtain ⟨document, full⟩ := troubleAt?_unwritable here
    have reached : ordinal < source.firstUnreadable := by
      apply Source.lt_firstUnreadable below
      intro i le
      rcases Nat.lt_or_eq_of_le le with lt | rfl
      · exact (earlier i lt).1
      · exact document
    obtain ⟨more, lines⟩ := linesBelow_prefix source options reached
    rw [← lines, Sink.kept_append_of_not_fits full]

end Scan

end ArtifactGroups
