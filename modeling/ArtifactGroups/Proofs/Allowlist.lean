import ArtifactGroups.Allowlist
import ArtifactGroups.Proofs.Text

/-! Which groups pass an allowlist. One rule that matches is enough, so neither the order of the
rules nor a repeated rule matters. -/
namespace ArtifactGroups

theorem Rule.allows_startsWith_iff {group pattern : String} :
    (Rule.startsWith pattern).allows group = true ↔ ∃ after, group = pattern ++ after :=
  Text.startsWith_iff_append

theorem Rule.allows_contains_iff {group pattern : String} :
    (Rule.contains pattern).allows group = true ↔
      ∃ before after, group = before ++ pattern ++ after :=
  Text.contains_iff_append

namespace Allowlist

theorem allows_iff {rules : List Rule} {group : String} :
    (⟨rules⟩ : Allowlist).allows group = true ↔ ∃ rule ∈ rules, rule.allows group = true := by
  rw [allows, List.any_eq_true]

@[simp] theorem allows_nil (group : String) : (⟨[]⟩ : Allowlist).allows group = false := rfl

@[simp] theorem allows_append (rules more : List Rule) (group : String) :
    (⟨rules ++ more⟩ : Allowlist).allows group =
      ((⟨rules⟩ : Allowlist).allows group || (⟨more⟩ : Allowlist).allows group) := by
  simp only [allows, List.any_append]

theorem allows_congr {rules others : List Rule} (same : ∀ rule, rule ∈ rules ↔ rule ∈ others)
    (group : String) :
    (⟨rules⟩ : Allowlist).allows group = (⟨others⟩ : Allowlist).allows group := by
  rw [Bool.eq_iff_iff, allows_iff, allows_iff]
  simp only [same]

end Allowlist

end ArtifactGroups
