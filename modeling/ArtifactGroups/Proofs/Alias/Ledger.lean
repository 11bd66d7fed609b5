import ArtifactGroups.Alias.Ledger
import ArtifactGroups.Proofs.Text

/-! A ledger after any list of lines, in terms of the verdicts on the lines one by one. -/
namespace ArtifactGroups.Alias

namespace Verdict

def isMalformed : Verdict → Bool
  | .malformed => true
  | _ => false

def isRejected : Verdict → Bool
  | .rejected .. => true
  | _ => false

def groupFor? (artifact : String) : Verdict → Option String
  | .pair group own => if own = artifact then some group else none
  | _ => none

def isPair (line : String) : Bool := (Text.trim line).toList.count Coordinate.separator = 1

def groupIn (line : String) : String := Text.before Coordinate.separator (Text.trim line)

def artifactIn (line : String) : String := Text.behind Coordinate.separator (Text.trim line)

theorem ofLine_eq (line : String) :
    ofLine line =
      if isPair line then
        match rejection? (groupIn line) (artifactIn line) with
        | some reason => .rejected (groupIn line) (artifactIn line) reason
        | none => .pair (groupIn line) (artifactIn line)
      else .malformed := by
  unfold ofLine isPair groupIn artifactIn
  by_cases once : (Text.trim line).toList.count Coordinate.separator = 1
  · cases rejected : rejection? (Text.before Coordinate.separator (Text.trim line))
      (Text.behind Coordinate.separator (Text.trim line)) <;>
      simp only [Text.pieces_of_count_eq_one once, once, decide_true, if_true, rejected]
  · have count := Text.length_pieces Coordinate.separator (Text.trim line)
    simp only [once, decide_false, Bool.false_eq_true, if_false]
    split
    next group artifact parts =>
      rw [parts] at count
      exact absurd (Nat.succ.inj count.symm) once
    next => rfl

theorem isMalformed_ofLine (line : String) : (ofLine line).isMalformed = !isPair line := by
  rw [ofLine_eq]
  cases isPair line with
  | false => rfl
  | true => cases rejection? (groupIn line) (artifactIn line) <;> rfl

theorem isRejected_ofLine (line : String) :
    (ofLine line).isRejected =
      (isPair line && (rejection? (groupIn line) (artifactIn line)).isSome) := by
  rw [ofLine_eq]
  cases isPair line with
  | false => rfl
  | true => cases rejection? (groupIn line) (artifactIn line) <;> rfl

end Verdict

namespace Table

theorem contains_iff {table : Table} {artifact : String} :
    table.contains artifact = true ↔ ∃ group, table.get? artifact = some group := by
  rw [contains, Option.isSome_iff_exists]

theorem length_insertEntry (artifact group : String) {entries : List (String × String)}
    (absent : entries.lookup artifact = none) :
    (insertEntry artifact group entries).length = entries.length + 1 := by
  induction entries with
  | nil => rfl
  | cons entry rest ih =>
    rw [lookup_entry] at absent
    split at absent
    next => contradiction
    next other =>
      rw [insertEntry, if_neg other]
      split
      · rfl
      · rw [List.length_cons, ih absent, List.length_cons]

theorem size_insert {table : Table} {artifact : String} (group : String)
    (absent : table.contains artifact = false) :
    (table.insert artifact group).size = table.size + 1 := by
  rw [contains, Option.isSome_eq_false_iff, Option.isNone_iff_eq_none] at absent
  exact length_insertEntry artifact group absent

theorem get?_seeded (artifact : String) :
    seeded.get? artifact =
      if artifact = "spring.boot" then some "org.springframework.boot" else none := by
  have seeds : seeded = empty.insert "spring.boot" "org.springframework.boot" := rfl
  rw [seeds, get?_insert]
  rfl

end Table

namespace Ledger

theorem get?_addLine (ledger : Ledger) (line artifact : String) :
    (ledger.addLine line).table.get? artifact =
      (ledger.table.get? artifact).or ((Verdict.ofLine line).groupFor? artifact) := by
  unfold addLine
  cases Verdict.ofLine line with
  | malformed => exact Option.or_none.symm
  | rejected => exact Option.or_none.symm
  | pair group own =>
    simp only [note, Verdict.groupFor?]
    split
    next known =>
      obtain ⟨old, there⟩ := Table.contains_iff.1 known
      by_cases same : own = artifact
      · subst same
        simp [there]
      · simp [same]
    next fresh =>
      rw [Table.get?_insert]
      by_cases same : own = artifact
      · subst same
        have absent : ledger.table.get? own = none := by
          simpa [Table.contains] using fresh
        simp [absent]
      · simp [same, Ne.symm same]

/-- The first good pair for an artifact decides, unless the table had the artifact before. -/
theorem get?_addLines (ledger : Ledger) (lines : List String) (artifact : String) :
    (ledger.addLines lines).table.get? artifact =
      (ledger.table.get? artifact).or
        (lines.findSome? fun line => (Verdict.ofLine line).groupFor? artifact) := by
  induction lines generalizing ledger with
  | nil => simp [addLines]
  | cons line rest ih =>
    have next := ih (ledger.addLine line)
    rw [get?_addLine, Option.or_assoc] at next
    rw [addLines, List.foldl_cons, ← addLines, next, List.findSome?_cons]
    cases (Verdict.ofLine line).groupFor? artifact <;> rfl

theorem tally_addLine (ledger : Ledger) (line : String) :
    (ledger.addLine line).tally.lines = ledger.tally.lines + 1 ∧
      (ledger.addLine line).tally.malformed =
        ledger.tally.malformed + (Verdict.ofLine line).isMalformed.toNat ∧
      (ledger.addLine line).tally.skipped =
        ledger.tally.skipped + (Verdict.ofLine line).isRejected.toNat := by
  unfold addLine
  cases Verdict.ofLine line with
  | malformed => exact ⟨rfl, rfl, rfl⟩
  | rejected => exact ⟨rfl, rfl, rfl⟩
  | pair =>
    simp only [note]
    split <;> exact ⟨rfl, rfl, rfl⟩

theorem tally_addLines (ledger : Ledger) (lines : List String) :
    (ledger.addLines lines).tally.lines = ledger.tally.lines + lines.length ∧
      (ledger.addLines lines).tally.malformed =
        ledger.tally.malformed + lines.countP (fun line => (Verdict.ofLine line).isMalformed) ∧
      (ledger.addLines lines).tally.skipped =
        ledger.tally.skipped + lines.countP (fun line => (Verdict.ofLine line).isRejected) := by
  induction lines generalizing ledger with
  | nil => exact ⟨rfl, rfl, rfl⟩
  | cons line rest ih =>
    obtain ⟨counted, malformed, skipped⟩ := ih (ledger.addLine line)
    obtain ⟨one, bad, refused⟩ := tally_addLine ledger line
    rw [addLines, List.foldl_cons, ← addLines, List.length_cons, List.countP_cons, List.countP_cons]
    refine ⟨by omega, ?_, ?_⟩
    · rw [malformed, bad]
      cases (Verdict.ofLine line).isMalformed with
      | false => simp
      | true => simp only [Bool.toNat_true, if_true]; omega
    · rw [skipped, refused]
      cases (Verdict.ofLine line).isRejected with
      | false => simp
      | true => simp only [Bool.toNat_true, if_true]; omega

end Ledger

end ArtifactGroups.Alias
