import ArtifactGroups.Proofs.Coordinate

/-! Which coordinate a document carries. `FirstText` is all that is ever read of its fields; the
two fields of their own go before the composite field, and a part of one is never joined to a part
of the other. -/
namespace ArtifactGroups

theorem Coordinate.ofComposite?_complete_iff {composite : String} {c : Coordinate} :
    ofComposite? composite = some c ∧ c.isComplete = true ↔
      (Text.pieces separator composite).take 2 = [c.group, c.artifact] ∧
        c.group ≠ "" ∧ c.artifact ≠ "" := by
  rw [ofComposite?_eq_some_iff_pieces, isComplete_iff]
  constructor
  · rintro ⟨⟨rest, cut, -⟩, nonempty⟩
    exact ⟨by simp [cut], nonempty⟩
  · rintro ⟨firstTwo, nonempty⟩
    have cut := List.take_append_drop 2 (Text.pieces separator composite)
    rw [firstTwo] at cut
    exact ⟨⟨_, cut.symm, fun blank => nonempty.2 (blank _ List.mem_cons_self)⟩, nonempty⟩

namespace Document

/-- The content is the first text stored under the name. -/
def FirstText (doc : Document) (name content : String) : Prop :=
  ∃ before after, doc.fields = before ++ ⟨name, .text content⟩ :: after ∧
    ∀ earlier, ⟨name, .text earlier⟩ ∉ before

theorem ite_text?_eq_some_iff {field : Field} {name content : String} :
    (if field.name = name then field.value.text? else none) = some content ↔
      field = ⟨name, .text content⟩ := by
  obtain ⟨fieldName, value⟩ := field
  cases value <;> simp [StoredValue.text?]

theorem text?_eq_some_iff {doc : Document} {name content : String} :
    doc.text? name = some content ↔ doc.FirstText name content := by
  rw [text?, List.findSome?_eq_some_iff, FirstText]
  constructor
  · rintro ⟨before, field, after, parts, found, none⟩
    obtain rfl := ite_text?_eq_some_iff.1 found
    refine ⟨before, after, parts, fun earlier member => ?_⟩
    have text := none _ member
    rw [ite_text?_eq_some_iff.2 rfl] at text
    contradiction
  · rintro ⟨before, after, parts, none⟩
    refine ⟨before, _, after, parts, ite_text?_eq_some_iff.2 rfl, fun field member => ?_⟩
    rw [Option.eq_none_iff_forall_ne_some]
    intro earlier found
    obtain rfl := ite_text?_eq_some_iff.1 found
    exact none earlier member

theorem nonEmptyText?_eq_some_iff {doc : Document} {name content : String} :
    doc.nonEmptyText? name = some content ↔ doc.FirstText name content ∧ content ≠ "" := by
  rw [nonEmptyText?, Option.filter_eq_some_iff, text?_eq_some_iff]
  simp

variable {doc other : Document} {names : FieldNames} {c : Coordinate}

/-- Both parts stand in fields of their own. -/
structure Direct (doc : Document) (names : FieldNames) (c : Coordinate) : Prop where
  group : doc.FirstText names.group c.group
  artifact : doc.FirstText names.artifact c.artifact
  group_nonempty : c.group ≠ ""
  artifact_nonempty : c.artifact ≠ ""

/-- Both parts are pieces of the composite field, the first and the second. -/
structure Composed (doc : Document) (names : FieldNames) (c : Coordinate) : Prop where
  firstTwo : ∃ composite, doc.FirstText names.composite composite ∧
    (Text.pieces Coordinate.separator composite).take 2 = [c.group, c.artifact]
  group_nonempty : c.group ≠ ""
  artifact_nonempty : c.artifact ≠ ""

theorem coordinate?_of_direct (direct : doc.Direct names c) : doc.coordinate? names = some c := by
  have group := nonEmptyText?_eq_some_iff.2 ⟨direct.group, direct.group_nonempty⟩
  have artifact := nonEmptyText?_eq_some_iff.2 ⟨direct.artifact, direct.artifact_nonempty⟩
  rw [coordinate?, group, artifact]

theorem coordinate?_eq_some_iff_composed (indirect : ∀ c, ¬doc.Direct names c) :
    doc.coordinate? names = some c ↔ doc.Composed names c := by
  unfold coordinate?
  split
  next group artifact hasGroup hasArtifact =>
    obtain ⟨first, nonempty⟩ := nonEmptyText?_eq_some_iff.1 hasGroup
    obtain ⟨first', nonempty'⟩ := nonEmptyText?_eq_some_iff.1 hasArtifact
    exact absurd ⟨first, first', nonempty, nonempty'⟩ (indirect ⟨group, artifact⟩)
  next =>
    rw [Option.filter_eq_some_iff, Option.bind_eq_some_iff]
    constructor
    · rintro ⟨⟨composite, found, read⟩, complete⟩
      obtain ⟨firstTwo, group, artifact⟩ := Coordinate.ofComposite?_complete_iff.1 ⟨read, complete⟩
      exact ⟨⟨composite, text?_eq_some_iff.1 found, firstTwo⟩, group, artifact⟩
    · rintro ⟨⟨composite, found, firstTwo⟩, group, artifact⟩
      obtain ⟨read, complete⟩ := Coordinate.ofComposite?_complete_iff.2 ⟨firstTwo, group, artifact⟩
      exact ⟨⟨composite, text?_eq_some_iff.2 found, read⟩, complete⟩

theorem coordinate?_eq_none_iff :
    doc.coordinate? names = none ↔ ∀ c, ¬doc.Direct names c ∧ ¬doc.Composed names c := by
  rw [Option.eq_none_iff_forall_ne_some]
  constructor
  · intro none
    have indirect (c : Coordinate) : ¬doc.Direct names c :=
      fun direct => none c (coordinate?_of_direct direct)
    exact fun c => ⟨indirect c, mt (coordinate?_eq_some_iff_composed indirect).2 (none c)⟩
  · intro neither c found
    have indirect (c : Coordinate) : ¬doc.Direct names c := (neither c).1
    exact (neither c).2 ((coordinate?_eq_some_iff_composed indirect).1 found)

theorem coordinate?_eq_of_texts (group : doc.text? names.group = other.text? names.group)
    (artifact : doc.text? names.artifact = other.text? names.artifact)
    (composite : doc.text? names.composite = other.text? names.composite) :
    doc.coordinate? names = other.coordinate? names := by
  simp only [coordinate?, nonEmptyText?, group, artifact, composite]

/-- The coordinate of a document: the two fields of their own if both hold text, and otherwise
the first two pieces of the composite field. It is complete, and nothing else in the document
matters. -/
theorem coordinate?_rule (doc : Document) (names : FieldNames) :
    (∀ c, doc.Direct names c → doc.coordinate? names = some c) ∧
    ((∀ c, ¬doc.Direct names c) → ∀ c, doc.coordinate? names = some c ↔ doc.Composed names c) ∧
    (doc.coordinate? names = none ↔ ∀ c, ¬doc.Direct names c ∧ ¬doc.Composed names c) ∧
    (∀ c, doc.coordinate? names = some c → c.isComplete = true) ∧
    ∀ other : Document,
      (∀ name ∈ [names.group, names.artifact, names.composite], ∀ content,
        doc.FirstText name content ↔ other.FirstText name content) →
      doc.coordinate? names = other.coordinate? names := by
  refine ⟨fun c => coordinate?_of_direct, fun indirect c =>
    coordinate?_eq_some_iff_composed indirect, coordinate?_eq_none_iff,
    fun c => isComplete_of_coordinate?, fun other same => ?_⟩
  have texts (name : String) (read : name ∈ [names.group, names.artifact, names.composite]) :
      doc.text? name = other.text? name := by
    apply Option.ext
    intro content
    rw [text?_eq_some_iff, text?_eq_some_iff]
    exact same name read content
  exact coordinate?_eq_of_texts (texts _ (by simp)) (texts _ (by simp)) (texts _ (by simp))

/-- The first group is empty, which leaves the document to its first composite value, with empty
pieces at the end. A document that lacks all further values carries the same coordinate. -/
theorem coordinate?_rule_empty_group :
    let doc : Document := { fields := [⟨"a", .other "7"⟩, ⟨"g", .text ""⟩,
      ⟨"u", .text "org.osgi|core||"⟩, ⟨"g", .text "org.w3c"⟩, ⟨"a", .text "dom"⟩,
      ⟨"u", .text "com.sun|xml"⟩] }
    let bare : Document := { fields := [⟨"u", .text "org.osgi|core||"⟩, ⟨"a", .text "dom"⟩,
      ⟨"g", .text ""⟩] }
    let direct : Document := bare.addText "artifact" "xml"
    (∀ c, ¬doc.Direct {} c) ∧ doc.Composed {} ⟨"org.osgi", "core"⟩ ∧
      doc.coordinate? {} = some ⟨"org.osgi", "core"⟩ ∧
      doc.coordinate? {} = bare.coordinate? {} ∧
      direct.Direct { group := "a", artifact := "artifact" } ⟨"dom", "xml"⟩ ∧
      direct.coordinate? { group := "a", artifact := "artifact" } = some ⟨"dom", "xml"⟩ := by
  intro doc bare direct
  have indirect (c : Coordinate) (claimed : doc.Direct {} c) : False := by
    have found := text?_eq_some_iff.2 claimed.group
    have first : doc.text? "g" = some "" := by decide +kernel
    exact claimed.group_nonempty (Option.some.inj (found.symm.trans first))
  have composed : doc.Composed {} ⟨"org.osgi", "core"⟩ :=
    ⟨⟨"org.osgi|core||", text?_eq_some_iff.1 (by decide +kernel), by decide +kernel⟩,
      by decide, by decide⟩
  have same (name : String) (read : name ∈ ["g", "a", "u"]) (content : String) :
      doc.FirstText name content ↔ bare.FirstText name content := by
    have texts : ∀ name ∈ ["g", "a", "u"], doc.text? name = bare.text? name := by decide +kernel
    rw [← text?_eq_some_iff, ← text?_eq_some_iff, texts name read]
  have both : direct.Direct { group := "a", artifact := "artifact" } ⟨"dom", "xml"⟩ :=
    ⟨text?_eq_some_iff.1 (by decide +kernel), text?_eq_some_iff.1 (by decide +kernel),
      by decide, by decide⟩
  obtain ⟨-, fallback, -, -, agrees⟩ := coordinate?_rule doc {}
  have given := (coordinate?_rule direct { group := "a", artifact := "artifact" }).1
  exact ⟨indirect, composed, (fallback indirect _).2 composed, agrees bare same, both,
    given _ both⟩

end Document

end ArtifactGroups
