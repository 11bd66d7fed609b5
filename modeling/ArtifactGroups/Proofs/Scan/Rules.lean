import ArtifactGroups.Proofs.Allowlist
import ArtifactGroups.Proofs.Scan.Outcome
import Mathlib.Data.List.Basic
import Mathlib.Data.List.Flatten

/-! Scans of one source under several lists of rules. The rules take part only in the choice among
the coordinates that the documents carry, so what is known of an allowlist carries over to what a
scan lists. -/
namespace ArtifactGroups.Scan

def Options.under (options : Options) (rules : List Rule) : Options :=
  { options with allowed := ⟨rules⟩ }

section SameRules

variable {options : Options} {rules others : List Rule}

theorem emit_under_congr
    (same : ∀ group, (⟨rules⟩ : Allowlist).allows group = (⟨others⟩ : Allowlist).allows group) :
    Walk.emit (options.under rules) = Walk.emit (options.under others) := by
  funext document
  simp only [Walk.emit, Options.match?, Options.under, same]

theorem visitAll_under_congr
    (same : ∀ group, (⟨rules⟩ : Allowlist).allows group = (⟨others⟩ : Allowlist).allows group)
    (source : Source) (level : Level) (ordinal count : Nat) :
    Walk.visitAll source (options.under rules) level ordinal count =
      Walk.visitAll source (options.under others) level ordinal count := by
  have visit_eq (ordinal : Nat) : Walk.visit source (options.under rules) level ordinal =
      Walk.visit source (options.under others) level ordinal := by
    unfold Walk.visit
    rw [emit_under_congr same]
    rfl
  induction count generalizing ordinal with
  | zero => rfl
  | succ count ih => rw [Walk.visitAll, Walk.visitAll, visit_eq, ih]

/-- Lists that allow the same groups make the same scan, whatever fails. -/
theorem run_under_congr
    (same : ∀ group, (⟨rules⟩ : Allowlist).allows group = (⟨others⟩ : Allowlist).allows group)
    (source : Source) (out diag : Sink) (level : Level) :
    run source (options.under rules) out diag level =
      run source (options.under others) out diag level := by
  unfold run
  rw [visitAll_under_congr same]
  rfl

end SameRules

theorem out_run_of_invalid {options : Options} (invalid : options.markEvery = 0) (source : Source)
    (out diag : Sink) (level : Level) : (run source options out diag level).out = out := by
  have refused : options.ensureValid =
      .error (.badOptions "progress interval must be greater than zero") := if_pos invalid
  simp only [run, refused]
  rfl

/-- The coordinates that the documents below a bound carry, allowed or not. -/
def carriedBelow (source : Source) (names : FieldNames) (bound : Nat) : List Coordinate :=
  (List.range bound).filterMap fun ordinal =>
    (source.fetch ordinal).toOption.bind (·.coordinate? names)

theorem matchesBelow_eq_filter (source : Source) (options : Options) (bound : Nat) :
    matchesBelow source options bound =
      (carriedBelow source options.fields bound).filter (options.allowed.allows ·.group) := by
  rw [matchesBelow, carriedBelow, List.filter_filterMap]
  congr 1
  funext ordinal
  rw [matchAt?]
  cases (source.fetch ordinal).toOption <;> rfl

theorem lines_listing (coordinates : List Coordinate) :
    Text.lines (listing coordinates) = coordinates.flatMap (Text.pieces '\n' ·.shown) := by
  induction coordinates with
  | nil => simp [Text.lines, Text.pieces]
  | cons coordinate rest ih =>
    have first : listing (coordinate :: rest) =
        coordinate.shown ++ '\n'.toString ++ listing rest := by
      rw [← List.singleton_append, listing_append]
      simp [listing]
    rw [first, Text.lines_append_newline, ih, List.flatMap_cons]

theorem lines_listing_sublist {coordinates more : List Coordinate}
    (within : coordinates.Sublist more) :
    (Text.lines (listing coordinates)).Sublist (Text.lines (listing more)) := by
  rw [lines_listing, lines_listing]
  exact within.flatMap _

theorem filter_allows_sublist (coordinates : List Coordinate) (rules more : List Rule) :
    (coordinates.filter ((⟨rules⟩ : Allowlist).allows ·.group)).Sublist
      (coordinates.filter ((⟨rules ++ more⟩ : Allowlist).allows ·.group)) := by
  refine List.monotone_filter_right coordinates fun c allowed => ?_
  rw [Allowlist.allows_append, allowed, Bool.true_or]

theorem length_filter_allows_append (coordinates : List Coordinate) (rules more : List Rule) :
    (coordinates.filter ((⟨rules ++ more⟩ : Allowlist).allows ·.group)).length +
        coordinates.countP (fun c =>
          (⟨rules⟩ : Allowlist).allows c.group && (⟨more⟩ : Allowlist).allows c.group) =
      (coordinates.filter ((⟨rules⟩ : Allowlist).allows ·.group)).length +
        (coordinates.filter ((⟨more⟩ : Allowlist).allows ·.group)).length := by
  simp only [← List.countP_eq_length_filter, Allowlist.allows_append]
  induction coordinates with
  | nil => rfl
  | cons c rest ih =>
    simp only [List.countP_cons]
    cases (⟨rules⟩ : Allowlist).allows c.group <;> cases (⟨more⟩ : Allowlist).allows c.group <;>
      simp <;> omega

/-- What two lists of rules list of one source is said by what each rule accepts. A longer list of
rules only adds lines, and a document that both lists allow is still listed once. -/
theorem run_rules (first second : List Rule) :
    (∀ group pattern, (Rule.startsWith pattern).allows group = true ↔
      ∃ after, group = pattern ++ after) ∧
    (∀ group pattern, (Rule.contains pattern).allows group = true ↔
      ∃ before after, group = before ++ pattern ++ after) ∧
    (∀ group, (⟨first ++ second⟩ : Allowlist).allows group = true ↔
      (⟨first⟩ : Allowlist).allows group = true ∨ (⟨second⟩ : Allowlist).allows group = true) ∧
    (∀ group, (⟨[]⟩ : Allowlist).allows group = false) ∧
    ((∀ rule, rule ∈ first ↔ rule ∈ second) →
      (∀ group, (⟨first⟩ : Allowlist).allows group = (⟨second⟩ : Allowlist).allows group) ∧
      ∀ (source : Source) (options : Options) (out diag : Sink) (level : Level),
        run source (options.under first) out diag level =
          run source (options.under second) out diag level) ∧
    ∀ (source : Source) (options : Options) (out diag : Sink) (level : Level),
      source.Readable → out.Reliable → diag.Reliable →
      let scan (rules : List Rule) := run source (options.under rules) out diag level
      (∃ text whole, (scan first).out.stored = out.stored ++ Text.utf8 text ∧
        (scan (first ++ second)).out.stored = out.stored ++ Text.utf8 whole ∧
        (Text.lines text).Sublist (Text.lines whole)) ∧
      (0 < options.markEvery → ∃ one two either : Report, (scan first).result = .ok one ∧
        (scan second).result = .ok two ∧ (scan (first ++ second)).result = .ok either ∧
        either.matched + (carriedBelow source options.fields source.total).countP (fun c =>
          (⟨first⟩ : Allowlist).allows c.group && (⟨second⟩ : Allowlist).allows c.group) =
          one.matched + two.matched) := by
  refine ⟨fun _ _ => Rule.allows_startsWith_iff, fun _ _ => Rule.allows_contains_iff,
    fun group => ?_, Allowlist.allows_nil, fun same => ?_, ?_⟩
  · rw [Allowlist.allows_append, Bool.or_eq_true]
  · have allows_eq := Allowlist.allows_congr same
    exact ⟨allows_eq, fun source options => run_under_congr allows_eq source⟩
  intro source options out diag level readable outReliable diagReliable scan
  have listed (rules : List Rule) (valid : 0 < options.markEvery) :=
    run_reliable source (options.under rules) out diag level readable valid outReliable diagReliable
  let chosen (rules : List Rule) :=
    (carriedBelow source options.fields source.total).filter ((⟨rules⟩ : Allowlist).allows ·.group)
  have chosen_eq (rules : List Rule) :
      matchesBelow source (options.under rules) source.total = chosen rules :=
    matchesBelow_eq_filter source (options.under rules) source.total
  constructor
  · rcases Nat.eq_zero_or_pos options.markEvery with invalid | valid
    · have out_eq (rules : List Rule) : (scan rules).out = out := by
        have refused : (options.under rules).markEvery = 0 := invalid
        exact out_run_of_invalid refused source out diag level
      exact ⟨"", "", by simp [out_eq], by simp [out_eq], List.Sublist.refl _⟩
    · have stored (rules : List Rule) :
          (scan rules).out.stored = out.stored ++ Text.utf8 (listing (chosen rules)) := by
        rw [(listed rules valid).1, linesBelow, chosen_eq]
      exact ⟨_, _, stored first, stored (first ++ second),
        lines_listing_sublist (filter_allows_sublist _ first second)⟩
  · intro valid
    have result (rules : List Rule) : (scan rules).result =
        .ok ⟨source.total, source.total, (chosen rules).length⟩ := by
      rw [(listed rules valid).2, chosen_eq]
    exact ⟨_, _, _, result first, result second, result (first ++ second),
      length_filter_allows_append _ first second⟩

/-- Of the releases one group is allowed by both lists. -/
theorem run_rules_releases :
    let source := Source.ofDocuments "central" releases
    let apache : List Rule := [.startsWith "org.apache"]
    let named : List Rule := [.contains "maven", .contains "spring", .contains "maven"]
    (∀ rule, rule ∈ apache ++ apache ↔ rule ∈ apache) ∧
      source.Readable ∧ ({} : Sink).Reliable ∧ 0 < ({} : Options).markEvery ∧
      run source (Options.under {} (apache ++ apache)) {} {} .warn =
        run source (Options.under {} apache) {} {} .warn ∧
      ∃ one two either : Report,
        (run source (Options.under {} apache) {} {} .warn).result = .ok one ∧
        (run source (Options.under {} named) {} {} .warn).result = .ok two ∧
        (run source (Options.under {} (apache ++ named)) {} {} .warn).result = .ok either ∧
        either.matched + 1 = one.matched + two.matched := by
  intro source apache named
  have same (rule : Rule) : rule ∈ apache ++ apache ↔ rule ∈ apache := by simp
  have readable := Source.ofDocuments_readable "central" releases
  have both : (carriedBelow source {} source.total).countP (fun c =>
      (⟨apache⟩ : Allowlist).allows c.group && (⟨named⟩ : Allowlist).allows c.group) = 1 := by
    decide +kernel
  obtain ⟨-, -, -, -, sets, -⟩ := run_rules (apache ++ apache) apache
  obtain ⟨-, -, -, -, -, scans⟩ := run_rules apache named
  obtain ⟨-, counts⟩ := scans source {} {} {} .warn readable ⟨rfl, rfl⟩ ⟨rfl, rfl⟩
  obtain ⟨one, two, either, first, second, whole, sum⟩ := counts (by decide)
  refine ⟨same, readable, ⟨rfl, rfl⟩, by decide, (sets same).2 source {} {} {} .warn,
    one, two, either, first, second, whole, ?_⟩
  rwa [both] at sum

end ArtifactGroups.Scan
