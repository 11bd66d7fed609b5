import ArtifactGroups.Text.Utf8

/-! The order of names. Names are compared by their UTF-8 bytes, which depends on no language
or locale; `precedes_iff` says so of the comparison by characters that is carried out. -/
namespace ArtifactGroups.Text

def precedes (s t : String) : Bool := decide (s < t)

theorem charCode_lt (c : Char) : c.val.toNat < 0x110000 :=
  c.valid.elim (fun h => Nat.lt_trans h (by decide)) And.right

theorem byte_lt_iff {m n : Nat} (hm : m < 256) (hn : n < 256) :
    UInt8.ofNat m < UInt8.ofNat n ↔ m < n := by
  rw [UInt8.lt_iff_toNat_lt, UInt8.toNat_ofNat_of_lt' hm, UInt8.toNat_ofNat_of_lt' hn]

theorem byte_eq_iff {m n : Nat} (hm : m < 256) (hn : n < 256) :
    UInt8.ofNat m = UInt8.ofNat n ↔ m = n := by
  rw [← UInt8.toNat_inj, UInt8.toNat_ofNat_of_lt' hm, UInt8.toNat_ofNat_of_lt' hn]

theorem utf8EncodeChar_append_lt {c d : Char} (h : c < d) (s t : Bytes) :
    String.utf8EncodeChar c ++ s < String.utf8EncodeChar d ++ t := by
  have hv : c.val.toNat < d.val.toNat := h
  have hd := charCode_lt d
  simp only [String.utf8EncodeChar]
  have two (n : Nat) : n / 4096 = n / 64 / 64 := (Nat.div_div_eq_div_mul n 64 64).symm
  have three (n : Nat) : n / 262144 = n / 64 / 64 / 64 := by
    rw [← two, Nat.div_div_eq_div_mul]
  generalize c.val.toNat = v at *
  generalize d.val.toNat = w at *
  split <;> split <;> (try split) <;> (try split) <;> (try split) <;> (try split) <;>
    first
    | omega
    | simp (disch := omega) only [List.cons_append, List.nil_append, List.cons_lt_cons_iff,
        byte_lt_iff, byte_eq_iff, two, three]
      omega

theorem utf8_eq (text : String) : utf8 text = text.toList.flatMap String.utf8EncodeChar := by
  have h : text.toByteArray = text.toList.utf8Encode := by
    rw [← String.toByteArray_ofList, String.ofList_toList]
  simp [utf8, h, List.utf8Encode]

theorem flatMap_utf8EncodeChar_lt {s t : List Char} (h : s < t) :
    s.flatMap String.utf8EncodeChar < t.flatMap String.utf8EncodeChar := by
  induction s generalizing t with
  | nil =>
    cases t with
    | nil => simp at h
    | cons d t =>
      rw [List.flatMap_nil, List.flatMap_cons]
      cases hd : String.utf8EncodeChar d with
      | nil => simp at hd
      | cons => exact List.nil_lt_cons ..
  | cons c s ih =>
    cases t with
    | nil => simp at h
    | cons d t =>
      rw [List.flatMap_cons, List.flatMap_cons]
      rcases List.cons_lt_cons_iff.1 h with hc | ⟨rfl, ht⟩
      · exact utf8EncodeChar_append_lt hc ..
      · exact List.append_left_lt (ih ht)

/-- The order of two texts by characters is the order of their bytes. -/
theorem utf8_lt_utf8_iff {s t : String} : utf8 s < utf8 t ↔ s < t := by
  simp only [utf8_eq, String.lt_iff]
  refine ⟨fun h => ?_, flatMap_utf8EncodeChar_lt⟩
  false_or_by_contra
  rename_i hn
  rcases List.le_iff_lt_or_eq.1 (List.not_lt.1 hn) with h' | h'
  · exact List.lt_asymm h (flatMap_utf8EncodeChar_lt h')
  · exact List.lt_irrefl _ (h' ▸ h)

theorem precedes_trans {r s t : String} (first : precedes r s = true)
    (second : precedes s t = true) : precedes r t = true := by
  simp only [precedes, decide_eq_true_eq] at *
  exact String.lt_trans first second

theorem ne_of_precedes {s t : String} (before : precedes s t = true) : s ≠ t := by
  rintro rfl
  simp [precedes] at before

theorem precedes_of_ne {s t : String} (apart : s ≠ t) (notBefore : precedes s t ≠ true) :
    precedes t s = true := by
  simp only [precedes, ne_eq, decide_eq_true_eq] at *
  false_or_by_contra
  rename_i notAfter
  exact apart (String.le_antisymm (String.not_lt.1 notAfter) (String.not_lt.1 notBefore))

theorem precedes_iff {s t : String} : precedes s t = true ↔ utf8 s < utf8 t := by
  rw [precedes, decide_eq_true_iff, utf8_lt_utf8_iff]

end ArtifactGroups.Text
