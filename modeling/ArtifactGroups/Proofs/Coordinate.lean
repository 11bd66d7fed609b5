import ArtifactGroups.Coordinate
import ArtifactGroups.Proofs.Text

/-! What a composite value reads as, and when the written form of a coordinate says which coordinate
it is. -/
namespace ArtifactGroups

namespace Coordinate

/-- Neither part holds one of the two characters that give a listing its form. -/
structure Plain (c : Coordinate) : Prop where
  group_separator : separator ∉ c.group.toList
  group_newline : '\n' ∉ c.group.toList
  artifact_separator : separator ∉ c.artifact.toList
  artifact_newline : '\n' ∉ c.artifact.toList

theorem plain_iff {c : Coordinate} : c.Plain ↔
    separator ∉ c.group.toList ∧ '\n' ∉ c.group.toList ∧
      separator ∉ c.artifact.toList ∧ '\n' ∉ c.artifact.toList :=
  ⟨fun plain => ⟨plain.1, plain.2, plain.3, plain.4⟩, fun ⟨a, b, c, d⟩ => ⟨a, b, c, d⟩⟩

instance (c : Coordinate) : Decidable c.Plain := decidable_of_iff' _ plain_iff

@[simp] theorem isComplete_iff {c : Coordinate} :
    c.isComplete = true ↔ c.group ≠ "" ∧ c.artifact ≠ "" := by
  simp [isComplete]

theorem toList_shown (c : Coordinate) :
    c.shown.toList = c.group.toList ++ separator :: c.artifact.toList := by
  simp [shown]

theorem head?_shown {c : Coordinate} (complete : c.isComplete = true) :
    c.shown.toList.head? = c.group.toList.head? := by
  have nonempty : c.group.toList ≠ [] := by
    simpa using (isComplete_iff.1 complete).1
  rw [toList_shown, List.head?_append, List.head?_eq_some_head nonempty, Option.some_or]

theorem getLast?_shown {c : Coordinate} (complete : c.isComplete = true) :
    c.shown.toList.getLast? = c.artifact.toList.getLast? := by
  have nonempty : c.artifact.toList ≠ [] := by
    simpa using (isComplete_iff.1 complete).2
  rw [toList_shown, List.getLast?_append, List.getLast?_cons,
    List.getLast?_eq_some_getLast nonempty, Option.getD_some, Option.some_or]

theorem pieces_shown {c : Coordinate} (group : separator ∉ c.group.toList)
    (artifact : separator ∉ c.artifact.toList) :
    Text.pieces separator c.shown = [c.group, c.artifact] := by
  rw [shown, Text.pieces_append_separator, Text.pieces_eq_singleton group,
    Text.pieces_eq_singleton artifact, List.singleton_append]

theorem dropTrailingEmpty_cons (piece : String) (rest : List String) :
    dropTrailingEmpty (piece :: rest) =
      if dropTrailingEmpty rest = [] then (if piece = "" then [] else [piece])
      else piece :: dropTrailingEmpty rest := by
  simp only [dropTrailingEmpty, List.reverse_cons, List.dropWhile_append,
    List.reverse_eq_nil_iff, List.isEmpty_iff]
  split
  next => by_cases empty : piece = "" <;> simp [empty]
  next => simp

theorem dropTrailingEmpty_eq_nil_iff {pieces : List String} :
    dropTrailingEmpty pieces = [] ↔ ∀ piece ∈ pieces, piece = "" := by
  induction pieces with
  | nil => simp [dropTrailingEmpty]
  | cons piece rest ih =>
    rw [dropTrailingEmpty_cons, List.forall_mem_cons, ← ih]
    split
    next blank => simp [blank]
    next left => simp [left]

theorem exists_dropTrailingEmpty_eq_cons {piece : String} {rest : List String}
    (left : dropTrailingEmpty (piece :: rest) ≠ []) :
    ∃ others, dropTrailingEmpty (piece :: rest) = piece :: others := by
  rw [dropTrailingEmpty_cons] at left ⊢
  by_cases blank : dropTrailingEmpty rest = []
  · rw [if_pos blank] at left ⊢
    exact ⟨[], if_neg fun empty => left (if_pos empty)⟩
  · exact ⟨_, if_neg blank⟩

/-- The first two pieces are read unless all behind the first are empty. -/
theorem ofComposite?_eq_some_iff_pieces {composite : String} {c : Coordinate} :
    ofComposite? composite = some c ↔
      ∃ rest, Text.pieces separator composite = c.group :: c.artifact :: rest ∧
        ¬∀ piece ∈ c.artifact :: rest, piece = "" := by
  rw [ofComposite?]
  cases Text.pieces separator composite with
  | nil => simp [dropTrailingEmpty]
  | cons group more =>
    rw [dropTrailingEmpty_cons]
    by_cases blank : dropTrailingEmpty more = []
    · have alone : ¬∃ rest, group :: more = c.group :: c.artifact :: rest ∧
          ¬∀ piece ∈ c.artifact :: rest, piece = "" := by
        rintro ⟨rest, same, filled⟩
        obtain ⟨-, rfl⟩ := List.cons.inj same
        exact filled (dropTrailingEmpty_eq_nil_iff.1 blank)
      rw [if_pos blank, iff_false_right alone]
      by_cases empty : group = "" <;> simp [empty]
    · have filled := mt dropTrailingEmpty_eq_nil_iff.2 blank
      cases more with
      | nil => exact absurd rfl blank
      | cons artifact rest =>
        obtain ⟨others, left⟩ := exists_dropTrailingEmpty_eq_cons blank
        rw [if_neg blank, left]
        constructor
        · intro read
          obtain rfl := Option.some.inj read
          exact ⟨rest, rfl, filled⟩
        · rintro ⟨rest', same, -⟩
          obtain ⟨rfl, tail⟩ := List.cons.inj same
          obtain ⟨rfl, -⟩ := List.cons.inj tail
          rfl

/-- The value begins with the coordinate, whose artifact ends where `rest` begins: at the end of
the value or at a separator. Behind the group there is more than separators. -/
structure Heads (c : Coordinate) (rest composite : String) : Prop where
  group_free : separator ∉ c.group.toList
  artifact_free : separator ∉ c.artifact.toList
  shown : composite = c.group ++ separator.toString ++ c.artifact ++ rest
  boundary : rest = "" ∨ rest.toList.head? = some separator
  more : ∃ char ∈ (c.artifact ++ rest).toList, char ≠ separator

theorem ofComposite?_eq_some_iff {composite : String} {c : Coordinate} :
    ofComposite? composite = some c ↔ ∃ rest, c.Heads rest composite := by
  rw [ofComposite?_eq_some_iff_pieces]
  constructor
  · rintro ⟨others, cut, filled⟩
    obtain ⟨groupFree, ⟨alone, -⟩ | ⟨later, rfl, cutLater⟩⟩ := Text.pieces_eq_cons_iff.1 cut
    · contradiction
    have more : ∃ char ∈ later.toList, char ≠ separator := by
      simpa using mt Text.forall_pieces_empty_iff.2 (cutLater ▸ filled)
    obtain ⟨artifactFree, rest, rfl, boundary⟩ :=
      Text.exists_pieces_eq_cons_iff.1 ⟨others, cutLater⟩
    exact ⟨rest, groupFree, artifactFree, by simp only [String.append_assoc], boundary, more⟩
  · rintro ⟨rest, groupFree, artifactFree, rfl, boundary, char, member, other⟩
    obtain ⟨others, cutLater⟩ :=
      Text.exists_pieces_eq_cons_iff.2 ⟨artifactFree, rest, rfl, boundary⟩
    refine ⟨others, Text.pieces_eq_cons_iff.2 ⟨groupFree, .inr ⟨_, ?_, cutLater⟩⟩, ?_⟩
    · simp only [String.append_assoc]
    · rw [← cutLater, Text.forall_pieces_empty_iff]
      exact fun all => other (all char member)

/-- The written form reads back unless it is cut elsewhere or ends in its separator. -/
theorem ofComposite?_shown_iff {c : Coordinate} : ofComposite? c.shown = some c ↔
    separator ∉ c.group.toList ∧ separator ∉ c.artifact.toList ∧ c.artifact ≠ "" := by
  rw [ofComposite?_eq_some_iff]
  constructor
  · rintro ⟨rest, groupFree, artifactFree, shown, -, more⟩
    have nothing : rest.toList = [] := by
      simpa [Coordinate.shown] using congrArg String.toList shown
    obtain rfl : rest = "" := String.toList_injective nothing
    refine ⟨groupFree, artifactFree, fun empty => ?_⟩
    simp [empty] at more
  · rintro ⟨groupFree, artifactFree, nonempty⟩
    obtain ⟨char, member⟩ := List.exists_mem_of_ne_nil c.artifact.toList (by simpa using nonempty)
    refine ⟨"", groupFree, artifactFree, String.append_empty.symm, .inl rfl, char, ?_, ?_⟩
    · simpa using member
    · exact fun same => artifactFree (same ▸ member)

/-- A composite value reads as the coordinate that heads it, and as none if there is none. So a
written form reads back exactly if neither part holds the separator and there is an artifact. -/
theorem ofComposite?_grammar :
    (∀ composite c, ofComposite? composite = some c ↔ ∃ rest, c.Heads rest composite) ∧
    (∀ composite, ofComposite? composite = none ↔ ∀ c rest, ¬Heads c rest composite) ∧
    ∀ c : Coordinate, ofComposite? c.shown = some c ↔
      separator ∉ c.group.toList ∧ separator ∉ c.artifact.toList ∧ c.artifact ≠ "" := by
  refine ⟨fun _ _ => ofComposite?_eq_some_iff, fun composite => ?_,
    fun _ => ofComposite?_shown_iff⟩
  rw [Option.eq_none_iff_forall_ne_some]
  refine forall_congr' fun c => ?_
  rw [Ne, ofComposite?_eq_some_iff, not_exists]

/-- Both parts may be empty if something stands behind them. -/
example : ofComposite? "||x|" = some ⟨"", ""⟩ := by decide +kernel

end Coordinate

theorem Document.nonEmptyText?_ne_empty {doc : Document} {name content : String}
    (found : doc.nonEmptyText? name = some content) : content ≠ "" := by
  have := (Option.filter_eq_some_iff.1 found).2
  simpa using this

/-- Both parts of every coordinate that a document carries are there. -/
theorem Document.isComplete_of_coordinate? {doc : Document} {names : FieldNames} {c : Coordinate}
    (found : doc.coordinate? names = some c) : c.isComplete = true := by
  unfold Document.coordinate? at found
  split at found
  next group artifact =>
    obtain rfl := Option.some.inj found
    exact Coordinate.isComplete_iff.2
      ⟨nonEmptyText?_ne_empty group, nonEmptyText?_ne_empty artifact⟩
  next => exact (Option.filter_eq_some_iff.1 found).2

end ArtifactGroups
