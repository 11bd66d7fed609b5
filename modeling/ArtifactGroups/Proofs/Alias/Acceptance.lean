import ArtifactGroups.Alias.Acceptance
import ArtifactGroups.Proofs.Text

/-! Which pairs are accepted, said without searching: a word is in a text if the text is that word
between two others. A pair that is turned down for a word stays turned down when text is added
around its parts, although another reason may come first then. -/
namespace ArtifactGroups.Alias

/-- The word stands somewhere in the text. -/
def Within (word text : String) : Prop := ∃ before after, text = before ++ word ++ after

theorem Within.extend {word text : String} (within : Within word text) (front back : String) :
    Within word (front ++ text ++ back) := by
  obtain ⟨before, after, rfl⟩ := within
  exact ⟨front ++ before, after ++ back, by simp [String.append_assoc]⟩

namespace Rejection

/-- What is wrong with a pair when a reason applies to it. -/
def Fault (group artifact : String) : Rejection → Prop
  | .noHyphen => ¬Within "-" artifact
  | .sameAsGroup => group = artifact
  | .docs => Within "docs" artifact
  | .incubating => Within "incubating" artifact
  | .exampleCode => Within "example" group ∨ Within "example" artifact
  | .testCode => Within "test" group ∨ Within "test" artifact
  | .notLowercase => Text.lowercase artifact ≠ artifact
  | .sampleCode => Within "sample" group ∨ Within "sample" artifact

/-- The reasons that a word gives, in either part or in the artifact alone. -/
def wordy : List Rejection := [.docs, .incubating, .exampleCode, .testCode, .sampleCode]

variable {group artifact : String} {reason : Rejection}

theorem eitherContains_iff {word : String} :
    eitherContains group artifact word = true ↔ Within word group ∨ Within word artifact := by
  rw [eitherContains, Bool.or_eq_true, Text.contains_iff_append, Text.contains_iff_append]
  exact Iff.rfl

theorem applies_iff : reason.applies group artifact = true ↔ reason.Fault group artifact := by
  cases reason with
  | noHyphen =>
    rw [applies, Bool.not_eq_true', ← Bool.not_eq_true, Text.contains_iff_append]
    exact Iff.rfl
  | sameAsGroup => exact beq_iff_eq
  | docs => exact Text.contains_iff_append
  | incubating => exact Text.contains_iff_append
  | exampleCode => exact eitherContains_iff
  | testCode => exact eitherContains_iff
  | notLowercase => exact bne_iff_ne
  | sampleCode => exact eitherContains_iff

theorem Fault.extend (fault : reason.Fault group artifact) (wordy : reason ∈ wordy)
    (before after front back : String) :
    reason.Fault (before ++ group ++ after) (front ++ artifact ++ back) := by
  have either {word : String} (within : Within word group ∨ Within word artifact) :
      Within word (before ++ group ++ after) ∨ Within word (front ++ artifact ++ back) :=
    within.imp (·.extend before after) (·.extend front back)
  cases reason with
  | docs => exact Within.extend fault front back
  | incubating => exact Within.extend fault front back
  | exampleCode => exact either fault
  | testCode => exact either fault
  | sampleCode => exact either fault
  | noHyphen => simp [Rejection.wordy] at wordy
  | sameAsGroup => simp [Rejection.wordy] at wordy
  | notLowercase => simp [Rejection.wordy] at wordy

end Rejection

/-- What an artifact and its group have to be to make an alias. -/
structure Acceptable (group artifact : String) : Prop where
  hyphen : Within "-" artifact
  apart : artifact ≠ group
  lowercase : Text.lowercase artifact = artifact
  artifactWords : ∀ word ∈ ["docs", "incubating", "example", "test", "sample"],
    ¬Within word artifact
  groupWords : ∀ word ∈ ["example", "test", "sample"], ¬Within word group

/-- A reason applies, and none of those that are asked before it does. -/
def FirstFault (group artifact : String) (reason : Rejection) : Prop :=
  ∃ earlier later : List Rejection,
    [.noHyphen, .sameAsGroup, .docs, .incubating, .exampleCode, .testCode, .notLowercase,
      .sampleCode] = earlier ++ reason :: later ∧
    reason.Fault group artifact ∧ ∀ other ∈ earlier, ¬other.Fault group artifact

variable {group artifact : String}

theorem acceptable_iff : Acceptable group artifact ↔
    ∀ reason : Rejection, ¬reason.Fault group artifact := by
  constructor
  · rintro ⟨hyphen, apart, lowercase, artifactWords, groupWords⟩ reason fault
    simp only [List.forall_mem_cons, List.not_mem_nil, false_imp_iff, implies_true, and_true]
      at artifactWords groupWords
    obtain ⟨docs, incubating, exampleCode, testCode, sampleCode⟩ := artifactWords
    obtain ⟨exampleGroup, testGroup, sampleGroup⟩ := groupWords
    cases reason with
    | noHyphen => exact fault hyphen
    | sameAsGroup => exact apart (Eq.symm fault)
    | docs => exact docs fault
    | incubating => exact incubating fault
    | exampleCode => exact fault.elim exampleGroup exampleCode
    | testCode => exact fault.elim testGroup testCode
    | notLowercase => exact fault lowercase
    | sampleCode => exact fault.elim sampleGroup sampleCode
  · intro clean
    have exampleCode := not_or.1 (clean .exampleCode)
    have testCode := not_or.1 (clean .testCode)
    have sampleCode := not_or.1 (clean .sampleCode)
    refine ⟨Classical.not_not.1 (clean .noHyphen), fun same => clean .sameAsGroup same.symm,
      Classical.not_not.1 (clean .notLowercase), ?_, ?_⟩
    · simp only [List.forall_mem_cons, List.not_mem_nil, false_imp_iff, implies_true, and_true]
      exact ⟨clean .docs, clean .incubating, exampleCode.2, testCode.2, sampleCode.2⟩
    · simp only [List.forall_mem_cons, List.not_mem_nil, false_imp_iff, implies_true, and_true]
      exact ⟨exampleCode.1, testCode.1, sampleCode.1⟩

theorem Rejection.mem_all (reason : Rejection) : reason ∈ Rejection.all := by
  cases reason <;> decide

theorem rejection?_eq_none_iff : rejection? group artifact = none ↔ Acceptable group artifact := by
  rw [acceptable_iff, rejection?, List.find?_eq_none]
  constructor
  · intro none reason fault
    exact none reason reason.mem_all (Rejection.applies_iff.2 fault)
  · intro clean reason _ applies
    exact clean reason (Rejection.applies_iff.1 applies)

theorem rejection?_eq_some_iff {reason : Rejection} :
    rejection? group artifact = some reason ↔ FirstFault group artifact reason := by
  simp only [rejection?, List.find?_eq_some_iff_append, Bool.not_eq_true', ← Bool.not_eq_true,
    Rejection.applies_iff, FirstFault, Rejection.all]
  constructor
  · rintro ⟨fault, earlier, later, order, clean⟩
    exact ⟨earlier, later, order, fault, clean⟩
  · rintro ⟨earlier, later, order, fault, clean⟩
    exact ⟨fault, earlier, later, order, clean⟩

/-- A pair is accepted exactly if its artifact has a hyphen, is not its group, is its own
lower-case form and holds none of five words, three of which the group must not hold either.
Otherwise the reason is the first that applies. A pair that is turned down for a word is turned
down with any text around its group and around its artifact. -/
theorem rejection?_rules (group artifact : String) :
    (rejection? group artifact = none ↔ Acceptable group artifact) ∧
    (∀ reason, rejection? group artifact = some reason ↔ FirstFault group artifact reason) ∧
    ∀ reason ∈ Rejection.wordy, rejection? group artifact = some reason →
      ∀ before after front back, ∃ other,
        rejection? (before ++ group ++ after) (front ++ artifact ++ back) = some other := by
  refine ⟨rejection?_eq_none_iff, fun _ => rejection?_eq_some_iff, ?_⟩
  intro reason wordy turnedDown before after front back
  obtain ⟨-, -, -, fault, -⟩ := rejection?_eq_some_iff.1 turnedDown
  apply Option.ne_none_iff_exists'.1
  intro accepted
  exact acceptable_iff.1 (rejection?_eq_none_iff.1 accepted) reason
    (fault.extend wordy before after front back)

/-- With a capital in front of its artifact the pair is turned down for another reason, which is
asked before the word. -/
theorem rejection?_rules_capital_added :
    Rejection.sampleCode ∈ Rejection.wordy ∧
      rejection? "org.samples" "cxf-core" = some .sampleCode ∧
      (∃ other, rejection? ("" ++ "org.samples" ++ ".api") ("X" ++ "cxf-core" ++ "") = some other) ∧
      FirstFault "org.samples.api" "Xcxf-core" .notLowercase := by
  have wordy : Rejection.sampleCode ∈ Rejection.wordy := by decide
  have before : rejection? "org.samples" "cxf-core" = some .sampleCode := by decide +kernel
  have after : rejection? "org.samples.api" "Xcxf-core" = some .notLowercase := by decide +kernel
  obtain ⟨-, -, grown⟩ := rejection?_rules "org.samples" "cxf-core"
  obtain ⟨-, first, -⟩ := rejection?_rules "org.samples.api" "Xcxf-core"
  exact ⟨wordy, before, grown .sampleCode wordy before "" ".api" "X" "", (first _).1 after⟩

end ArtifactGroups.Alias
