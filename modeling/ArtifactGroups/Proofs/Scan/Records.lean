import ArtifactGroups.Proofs.Coordinate
import ArtifactGroups.Proofs.Scan.Outcome

/-! Whether the output of a scan is a list of records, one a line. It is exactly when no listed
coordinate holds a newline or a separator; a scan checks neither. -/
namespace ArtifactGroups.Scan

theorem isComplete_of_mem_matchesBelow {source : Source} {options : Options} {bound : Nat}
    {coordinate : Coordinate} (member : coordinate ∈ matchesBelow source options bound) :
    coordinate.isComplete = true := by
  obtain ⟨ordinal, -, found⟩ := List.mem_filterMap.1 member
  obtain ⟨document, -, carried⟩ := Option.bind_eq_some_iff.1 found
  exact Document.isComplete_of_coordinate? (Option.filter_eq_some_iff.1 carried).1

theorem newline_mem_shown {coordinate : Coordinate} :
    '\n' ∈ coordinate.shown.toList ↔
      '\n' ∈ coordinate.group.toList ∨ '\n' ∈ coordinate.artifact.toList := by
  have other : '\n' ≠ Coordinate.separator := by decide
  rw [Coordinate.toList_shown, List.mem_append, List.mem_cons]
  simp only [other, false_or]

theorem listing_eq_join (coordinates : List Coordinate) :
    listing coordinates = String.join ((coordinates.map (·.shown)).map (· ++ "\n")) := by
  rw [listing, List.map_map]
  rfl

theorem toList_listing_cons (coordinate : Coordinate) (rest : List Coordinate) :
    (listing (coordinate :: rest)).toList =
      coordinate.shown.toList ++ '\n' :: (listing rest).toList := by
  rw [← List.singleton_append, listing_append]
  simp [listing]

/-- Each line ends in a newline, and the others are those in the coordinates. -/
theorem count_newline_listing (coordinates : List Coordinate) :
    (listing coordinates).toList.count '\n' =
      coordinates.length + (coordinates.flatMap fun c => c.shown.toList).count '\n' := by
  induction coordinates with
  | nil => simp
  | cons coordinate rest ih =>
    rw [toList_listing_cons, List.count_append, List.count_cons_self, ih, List.length_cons,
      List.flatMap_cons, List.count_append]
    omega

theorem pieces_listing (coordinates : List Coordinate)
    (free : ∀ coordinate ∈ coordinates, '\n' ∉ coordinate.shown.toList) :
    Text.pieces '\n' (listing coordinates) = coordinates.map (·.shown) ++ [""] := by
  induction coordinates with
  | nil => simp [Text.pieces]
  | cons coordinate rest ih =>
    have later := ih fun other member => free other (List.mem_cons_of_mem _ member)
    have first := free coordinate List.mem_cons_self
    rw [Text.pieces] at later ⊢
    rw [toList_listing_cons, List.splitOn_append_cons_self_of_not_mem first, List.map_cons, later,
      String.ofList_toList]
    rfl

/-- There are as many newlines as records, and each line in turn reads as its record. -/
def OneRecordPerLine (records : List Coordinate) (text : String) : Prop :=
  text.toList.count '\n' = records.length ∧
    ∀ i < records.length, ((Text.pieces '\n' text)[i]?).bind Coordinate.ofComposite? = records[i]?

instance (records : List Coordinate) (text : String) : Decidable (OneRecordPerLine records text) :=
  inferInstanceAs (Decidable (_ ∧ _))

theorem oneRecordPerLine_listing_iff (records : List Coordinate)
    (complete : ∀ record ∈ records, record.isComplete = true) :
    OneRecordPerLine records (listing records) ↔ ∀ record ∈ records, record.Plain := by
  have line (free : ∀ record ∈ records, '\n' ∉ record.shown.toList) (i : Nat)
      (bound : i < records.length) :
      (Text.pieces '\n' (listing records))[i]? = some records[i].shown := by
    rw [pieces_listing records free, List.getElem?_append_left (by simpa using bound),
      List.getElem?_map, List.getElem?_eq_getElem bound, Option.map_some]
  constructor
  · rintro ⟨count, each⟩ record member
    have free : ∀ record ∈ records, '\n' ∉ record.shown.toList := by
      intro other inside
      rw [count_newline_listing, Nat.add_eq_left, List.count_eq_zero] at count
      exact fun newline => count (List.mem_flatMap.2 ⟨other, inside, newline⟩)
    obtain ⟨i, bound, rfl⟩ := List.mem_iff_getElem.1 member
    have back := each i bound
    rw [line free i bound, Option.bind_some, List.getElem?_eq_getElem bound,
      Coordinate.ofComposite?_shown_iff] at back
    have newlines := mt newline_mem_shown.2 (free _ member)
    rw [not_or] at newlines
    exact ⟨back.1, newlines.1, back.2.1, newlines.2⟩
  · intro plain
    have free : ∀ record ∈ records, '\n' ∉ record.shown.toList := by
      intro record member inside
      rcases newline_mem_shown.1 inside with group | artifact
      · exact (plain record member).group_newline group
      · exact (plain record member).artifact_newline artifact
    refine ⟨?_, fun i bound => ?_⟩
    · rw [count_newline_listing, Nat.add_eq_left, List.count_eq_zero]
      intro newline
      obtain ⟨record, inside, member⟩ := List.mem_flatMap.1 newline
      exact free record inside member
    · have member := List.getElem_mem bound
      rw [line free i bound, Option.bind_some, List.getElem?_eq_getElem bound,
        Coordinate.ofComposite?_shown_iff]
      exact ⟨(plain _ member).group_separator, (plain _ member).artifact_separator,
        (Coordinate.isComplete_iff.1 (complete _ member)).2⟩

/-- A scan without failures writes one record a line exactly if every listed coordinate is
plain. -/
theorem oneRecordPerLine_run (source : Source) (options : Options) (out diag : Sink)
    (level : Level) (readable : source.Readable) (valid : 0 < options.markEvery)
    (outReliable : out.Reliable) (diagReliable : diag.Reliable) :
    let records := matchesBelow source options source.total
    ∃ text : String,
      (run source options out diag level).out.stored = out.stored ++ Text.utf8 text ∧
      (run source options out diag level).result =
        .ok ⟨source.total, source.total, records.length⟩ ∧
      (OneRecordPerLine records text ↔ ∀ record ∈ records, record.Plain) := by
  intro records
  obtain ⟨stored, result⟩ :=
    run_reliable source options out diag level readable valid outReliable diagReliable
  have complete (record : Coordinate) (member : record ∈ records) : record.isComplete = true :=
    isComplete_of_mem_matchesBelow member
  exact ⟨listing records, stored, result, oneRecordPerLine_listing_iff records complete⟩

theorem oneRecordPerLine_run_releases :
    let source := Source.ofDocuments "central" releases
    source.Readable ∧ 0 < ({} : Options).markEvery ∧ ({} : Sink).Reliable ∧
      ∃ text : String, (run source {} {} {} .warn).out.stored = Text.utf8 text ∧
        (run source {} {} {} .warn).result = .ok ⟨4, 4, 3⟩ ∧
        OneRecordPerLine (matchesBelow source {} 4) text := by
  intro source
  have readable := Source.ofDocuments_readable "central" releases
  have listed : matchesBelow source {} 4 =
      [⟨"org.apache.maven", "maven-core"⟩, ⟨"org.springframework", "spring-web"⟩,
        ⟨"org.eclipse", "maven-core"⟩] := by
    decide +kernel
  obtain ⟨text, stored, result, records⟩ :=
    oneRecordPerLine_run source {} {} {} .warn readable (by decide) ⟨rfl, rfl⟩ ⟨rfl, rfl⟩
  rw [show source.total = 4 from rfl, listed] at result records
  rw [listed]
  exact ⟨readable, by decide, ⟨rfl, rfl⟩, text, stored, result, records.2 (by decide)⟩

/-- A line break inside a stored artifact makes two lines of one record. -/
theorem line_break_in_artifact :
    let source := Source.ofDocuments "central"
      [{ fields := [⟨"g", .text "org.apache"⟩, ⟨"a", .text "commons\ncore"⟩] }]
    let scanned := run source { quiet := true } {} {} .warn
    scanned.out.stored = Text.utf8 "org.apache|commons\ncore\n" ∧
      scanned.result = .ok ⟨1, 1, 1⟩ ∧
      ¬OneRecordPerLine (matchesBelow source { quiet := true } 1)
        "org.apache|commons\ncore\n" := by
  refine ⟨?_, ?_, ?_⟩
  · decide +kernel
  · rfl
  · decide +kernel

end ArtifactGroups.Scan
