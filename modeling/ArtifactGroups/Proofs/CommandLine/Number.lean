import ArtifactGroups.CommandLine.Number

/-! Which texts are read as a positive number: decimal digits behind an optional plus sign, with a
value of at most 64 bits. Digits are judged one by one, but an early excess is never made good by
the digits behind it. -/
namespace ArtifactGroups.CommandLine

/-- The text is one or more ASCII digits behind an optional plus sign, and this is their value. -/
def Numeral (text : String) (n : Nat) : Prop :=
  ∃ sign ∈ ["", "+"], ∃ digits : List Char, text = sign ++ String.ofList digits ∧
    digits ≠ [] ∧ (∀ c ∈ digits, c.isDigit = true) ∧ Nat.ofDigitChars 10 digits 0 = n

theorem numeral_toString (n : Nat) : Numeral (toString n) n := by
  refine ⟨"", List.mem_cons_self, Nat.toDigits 10 n, ?_, Nat.toDigits_ne_nil, ?_, ?_⟩
  · rw [String.empty_append, Nat.toString_eq_ofList_toDigits]
  · exact fun c member => Nat.isDigit_of_mem_toDigits (by decide) (by decide) member
  · exact Nat.ofDigitChars_ten_toDigits

theorem le_ofDigitChars (digits : List Char) (start : Nat) :
    start ≤ Nat.ofDigitChars 10 digits start := by
  induction digits generalizing start with
  | nil => exact Nat.le_refl _
  | cons c rest ih =>
    rw [Nat.ofDigitChars_cons]
    have := ih (10 * start + (c.toNat - '0'.toNat))
    omega

theorem appendDigit_eq (n : Nat) (c : Char) :
    appendDigit n c =
      if c.isDigit = true then
        if 10 * n + (c.toNat - '0'.toNat) < UInt64.size then
          .ok (10 * n + (c.toNat - '0'.toNat))
        else .error .tooLarge
      else .error .invalidDigit := by
  have digit : ('0' ≤ c ∧ c ≤ '9') ↔ c.isDigit = true := by
    rw [Char.isDigit_iff_toNat]
    exact Iff.rfl
  have next : n * 10 + (c.toNat - 0x30) = 10 * n + (c.toNat - '0'.toNat) := by
    rw [Nat.mul_comm]
    rfl
  simp only [appendDigit, digit, next]

theorem foldlM_appendDigit_eq_ok_iff {digits : List Char} {start n : Nat}
    (small : start < UInt64.size) :
    digits.foldlM appendDigit start = .ok n ↔
      (∀ c ∈ digits, c.isDigit = true) ∧ Nat.ofDigitChars 10 digits start = n ∧
        n < UInt64.size := by
  induction digits generalizing start with
  | nil =>
    simp only [List.foldlM_nil, pure, Except.pure, Except.ok.injEq, Nat.ofDigitChars_nil]
    constructor
    · rintro rfl
      exact ⟨fun c member => absurd member List.not_mem_nil, rfl, small⟩
    · exact fun read => read.2.1
  | cons c rest ih =>
    rw [List.foldlM_cons, appendDigit_eq, List.forall_mem_cons, Nat.ofDigitChars_cons]
    by_cases digit : c.isDigit = true
    · rw [if_pos digit]
      by_cases fits : 10 * start + (c.toNat - '0'.toNat) < UInt64.size
      · rw [if_pos fits]
        simp only [digit, true_and]
        exact ih fits
      · -- The value only grows with further digits.
        rw [if_neg fits]
        have grown := le_ofDigitChars rest (10 * start + (c.toNat - '0'.toNat))
        refine iff_of_false (fun read => by contradiction) ?_
        rintro ⟨-, rfl, below⟩
        omega
    · rw [if_neg digit]
      refine iff_of_false (fun read => by contradiction) ?_
      exact fun read => digit read.1.1

def unsigned : List Char → List Char
  | '+' :: digits => digits
  | digits => digits

theorem unsigned_of_isDigit {c : Char} (digit : c.isDigit = true) (rest : List Char) :
    unsigned (c :: rest) = c :: rest := by
  unfold unsigned
  split
  next digits same =>
    obtain ⟨rfl, -⟩ := List.cons.inj same
    contradiction
  next => rfl

theorem numeral_iff {text : String} {n : Nat} :
    Numeral text n ↔ unsigned text.toList ≠ [] ∧
      (∀ c ∈ unsigned text.toList, c.isDigit = true) ∧
      Nat.ofDigitChars 10 (unsigned text.toList) 0 = n := by
  constructor
  · rintro ⟨sign, member, digits, rfl, nonempty, decimal, value⟩
    have same : unsigned (sign ++ String.ofList digits).toList = digits := by
      simp only [List.mem_cons, List.not_mem_nil, or_false] at member
      rcases member with rfl | rfl
      · obtain ⟨first, rest, rfl⟩ := List.exists_cons_of_ne_nil nonempty
        rw [String.empty_append, String.toList_ofList]
        exact unsigned_of_isDigit (decimal first List.mem_cons_self) rest
      · simp [unsigned]
    rw [same]
    exact ⟨nonempty, decimal, value⟩
  · intro read
    unfold unsigned at read
    split at read
    next digits chars =>
      refine ⟨"+", by decide, digits, String.toList_injective ?_, read⟩
      simp [chars]
    next =>
      exact ⟨"", List.mem_cons_self, text.toList, by simp, read⟩

theorem natural_eq_ok_iff {text : List Char} {n : Nat} :
    natural text = .ok n ↔
      unsigned text ≠ [] ∧ (unsigned text).foldlM appendDigit 0 = .ok n := by
  unfold natural
  split
  next => simp [unsigned]
  next => simp [unsigned]
  next digits bare =>
    have nonempty : digits ≠ [] := fun empty => bare (by rw [empty])
    simp only [unsigned, ne_eq, nonempty, not_false_eq_true, true_and]
  next digits empty bare signed =>
    have same : unsigned text = text := by
      unfold unsigned
      split
      next rest => exact (signed rest rfl).elim
      next => rfl
    rw [same]
    exact (and_iff_right empty).symm

/-- The positive numbers of 64 bits are read, and nothing else is. -/
theorem positive_eq_ok_iff {text : String} {n : Nat} :
    positive text = .ok n ↔ Numeral text n ∧ 1 ≤ n ∧ n < UInt64.size := by
  have read (value : Nat) :
      natural text.toList = .ok value ↔ Numeral text value ∧ value < UInt64.size := by
    rw [natural_eq_ok_iff, foldlM_appendDigit_eq_ok_iff (by decide), numeral_iff, and_assoc,
      and_assoc]
  have numbered : positive text = .ok n ↔ natural text.toList = .ok n ∧ 1 ≤ n := by
    unfold positive
    cases natural text.toList with
    | error fault => simp [bind, Except.bind]
    | ok value =>
      cases value with
      | zero =>
        refine iff_of_false (fun same => by contradiction) ?_
        rintro ⟨same, positive⟩
        obtain rfl := Except.ok.inj same
        contradiction
      | succ value =>
        constructor
        · intro same
          obtain rfl := Except.ok.inj same
          exact ⟨rfl, Nat.succ_pos value⟩
        · exact And.left
  rw [numbered, read, and_assoc]
  exact and_congr_right fun _ => and_comm

end ArtifactGroups.CommandLine
