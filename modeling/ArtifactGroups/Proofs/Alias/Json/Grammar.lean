import ArtifactGroups.Alias.Json

/-! The texts of a JSON object whose members are all strings. The rules say nothing of reading or
writing: a text may have blanks wherever they are allowed, and spell a character in any of its
forms. The reader takes every such text, and gives the members that the rules give it. -/
namespace ArtifactGroups.Alias.Json

def hexDigits : List (Char × Nat) :=
  "0123456789abcdef".toList.zipIdx ++ "ABCDEF".toList.zipIdx 10

/-- The letters that stand for a character behind a backslash. -/
def shortEscapes : List (Char × Char) := [
  ('"', '"'), ('\\', '\\'), ('/', '/'), ('b', '\x08'), ('f', '\x0c'), ('n', '\n'), ('r', '\r'),
  ('t', '\t')]

/-- Four digits and the unit that they stand for. -/
inductive IsUnit : List Char → Nat → Prop where
  | digits {a b c d : Char} {i j k l : Nat} (first : (a, i) ∈ hexDigits)
      (second : (b, j) ∈ hexDigits) (third : (c, k) ∈ hexDigits) (fourth : (d, l) ∈ hexDigits) :
    IsUnit [a, b, c, d] (((i * 16 + j) * 16 + k) * 16 + l)

/-- What may stand between the quotes for a text. -/
inductive Spells : List Char → List Char → Prop where
  | nil : Spells [] []
  | plain {c : Char} {written text : List Char} (noQuote : c ≠ '"') (noBackslash : c ≠ '\\')
      (noControl : 0x20 ≤ c.toNat) (rest : Spells written text) :
    Spells (c :: written) (c :: text)
  | short {letter c : Char} {written text : List Char} (escape : (letter, c) ∈ shortEscapes)
      (rest : Spells written text) :
    Spells ('\\' :: letter :: written) (c :: text)
  | unit {digits written text : List Char} {value : Nat} (number : IsUnit digits value)
      (whole : value < 0xD800 ∨ 0xE000 ≤ value) (rest : Spells written text) :
    Spells ('\\' :: 'u' :: (digits ++ written)) (Char.ofNat value :: text)
  /-- A character beyond the basic plane takes two units. -/
  | pair {digits more written text : List Char} {high low : Nat} (first : IsUnit digits high)
      (second : IsUnit more low) (isHigh : 0xD800 ≤ high ∧ high < 0xDC00)
      (isLow : 0xDC00 ≤ low ∧ low < 0xE000) (rest : Spells written text) :
    Spells ('\\' :: 'u' :: (digits ++ '\\' :: 'u' :: (more ++ written)))
      (Char.ofNat (0x10000 + (high - 0xD800) * 0x400 + (low - 0xDC00)) :: text)

inductive IsString : List Char → String → Prop where
  | quoted {written : List Char} {text : String} (spells : Spells written text.toList) :
    IsString ('"' :: (written ++ ['"'])) text

def Blank (text : List Char) : Prop := ∀ c ∈ text, c ∈ [' ', '\t', '\n', '\r']

instance (text : List Char) : Decidable (Blank text) := List.decidableBAll _ text

inductive IsMember : List Char → String × String → Prop where
  | pair {w₀ k w₁ w₂ v w₃ : List Char} {key value : String} (before : Blank w₀)
      (isKey : IsString k key) (behind : Blank w₁) (between : Blank w₂)
      (isValue : IsString v value) (after : Blank w₃) :
    IsMember (w₀ ++ k ++ w₁ ++ ':' :: (w₂ ++ v ++ w₃)) (key, value)

inductive IsMembers : List Char → List (String × String) → Prop where
  | one {text : List Char} {entry : String × String} (member : IsMember text entry) :
    IsMembers text [entry]
  | more {text later : List Char} {entry : String × String} {entries : List (String × String)}
      (member : IsMember text entry) (rest : IsMembers later entries) :
    IsMembers (text ++ ',' :: later) (entry :: entries)

/-- The text of an object with these members in this order. -/
inductive IsObject : List Char → List (String × String) → Prop where
  | empty {w₀ w₁ w₂ : List Char} (before : Blank w₀) (inside : Blank w₁) (after : Blank w₂) :
    IsObject (w₀ ++ '{' :: (w₁ ++ '}' :: w₂)) []
  | filled {w₀ inner w₁ : List Char} {entries : List (String × String)} (before : Blank w₀)
      (members : IsMembers inner entries) (after : Blank w₁) :
    IsObject (w₀ ++ '{' :: (inner ++ '}' :: w₁)) entries

/-! ### Inside a string -/

theorem hexDigit?_of_mem : ∀ digit ∈ hexDigits, hexDigit? digit.1 = some digit.2 := by decide

theorem simpleEscape?_of_mem : ∀ escape ∈ shortEscapes,
    simpleEscape? escape.1 = some escape.2 ∧ escape.1 ≠ 'u' := by decide

namespace Partial

/-- The string goes on with a character, which does not end it. -/
def goOn (part : Partial) (c : Char) : Option Partial :=
  if part.closedBy c then none else part.step c

variable {sofar : String}

theorem push_eq (c : Char) (text : List Char) :
    sofar.push c ++ String.ofList text = sofar ++ String.ofList (c :: text) := by
  apply String.toList_injective
  simp

theorem goOn_unit {digits : List Char} {value : Nat} (number : IsUnit digits value)
    (high : Option Nat) :
    digits.foldlM goOn ⟨sofar, .unit 4 0 high⟩ = endUnit ⟨sofar, .outside⟩ value high := by
  cases number with
  | digits first second third fourth =>
    have first := hexDigit?_of_mem _ first
    have second := hexDigit?_of_mem _ second
    have third := hexDigit?_of_mem _ third
    have fourth := hexDigit?_of_mem _ fourth
    simp only at first second third fourth
    simp [goOn, closedBy, step, first, second, third, fourth, endUnit, push]

/-- Whatever spells a text is read as that text. -/
theorem goOn_spells (sofar : String) {written text : List Char} (spells : Spells written text) :
    written.foldlM goOn ⟨sofar, .outside⟩ = some ⟨sofar ++ String.ofList text, .outside⟩ := by
  induction spells generalizing sofar with
  | nil => simp
  | @plain c written text noQuote noBackslash noControl rest ih =>
    have taken : goOn ⟨sofar, .outside⟩ c = some ⟨sofar.push c, .outside⟩ := by
      simp [goOn, closedBy, step, push, noQuote, noBackslash, Nat.not_lt.2 noControl]
    simp [taken, ih, push_eq]
  | @short letter c written text escape rest ih =>
    obtain ⟨meant, noUnit⟩ := simpleEscape?_of_mem _ escape
    simp only at meant noUnit
    have begun : goOn ⟨sofar, .outside⟩ '\\' = some ⟨sofar, .begun⟩ := rfl
    have taken : goOn ⟨sofar, .begun⟩ letter = some ⟨sofar.push c, .outside⟩ := by
      simp [goOn, closedBy, step, push, noUnit, meant]
    simp [begun, taken, ih, push_eq]
  | @unit digits written text value number whole rest ih =>
    have begun : goOn ⟨sofar, .outside⟩ '\\' = some ⟨sofar, .begun⟩ := rfl
    have started : goOn ⟨sofar, .begun⟩ 'u' = some ⟨sofar, .unit 4 0 none⟩ := rfl
    have ended : endUnit ⟨sofar, .outside⟩ value none =
        some ⟨sofar.push (Char.ofNat value), .outside⟩ := by
      have noHigh : ¬(0xD800 ≤ value ∧ value < 0xDC00) := by omega
      have noLow : ¬(0xDC00 ≤ value ∧ value < 0xE000) := by omega
      simp [endUnit, push, noHigh, noLow]
    simp [begun, started, List.foldlM_append, goOn_unit number, ended, ih, push_eq]
  | @pair digits more written text high low first second isHigh isLow rest ih =>
    have begun : goOn ⟨sofar, .outside⟩ '\\' = some ⟨sofar, .begun⟩ := rfl
    have started : goOn ⟨sofar, .begun⟩ 'u' = some ⟨sofar, .unit 4 0 none⟩ := rfl
    have half : endUnit ⟨sofar, .outside⟩ high none = some ⟨sofar, .second high⟩ := by
      simp [endUnit, isHigh]
    have begun' : goOn ⟨sofar, .second high⟩ '\\' = some ⟨sofar, .secondBegun high⟩ := rfl
    have started' : goOn ⟨sofar, .secondBegun high⟩ 'u' = some ⟨sofar, .unit 4 0 (some high)⟩ := rfl
    have ended : endUnit ⟨sofar, .outside⟩ low (some high) = some ⟨sofar.push
        (Char.ofNat (0x10000 + (high - 0xD800) * 0x400 + (low - 0xDC00))), .outside⟩ := by
      simp [endUnit, push, isLow]
    simp [begun, started, begun', started', List.foldlM_append, goOn_unit first, goOn_unit second,
      half, ended, ih, push_eq]

end Partial

/-! ### The whole object -/

namespace Reader

/-- The text takes the reader from one state to another. -/
def Reads (start : Reader) (text : List Char) (last : Reader) : Prop :=
  text.foldlM step start = some last

variable {start middle last : Reader} {members : List (String × String)} {phase : Phase}

theorem Reads.append {text more : List Char} (first : Reads start text middle)
    (second : Reads middle more last) : Reads start (text ++ more) last := by
  unfold Reads at *
  simp [List.foldlM_append, first, second]

theorem Reads.cons {c : Char} {rest : List Char} (first : start.step c = some middle)
    (second : Reads middle rest last) : Reads start (c :: rest) last := by
  unfold Reads at *
  simp [first, second]

theorem reads_blank {text : List Char} (blank : Blank text)
    (between : ∀ c, isSpace c = true → step ⟨members, phase⟩ c = some ⟨members, phase⟩) :
    Reads ⟨members, phase⟩ text ⟨members, phase⟩ := by
  induction text with
  | nil => rfl
  | cons c rest ih =>
    have space : isSpace c = true := by
      have member := blank c List.mem_cons_self
      simp only [List.mem_cons, List.not_mem_nil, or_false] at member
      rcases member with rfl | rfl | rfl | rfl <;> rfl
    exact .cons (between c space) (ih fun d inside => blank d (List.mem_cons_of_mem _ inside))

theorem reads_goOn (inside : Partial → Phase)
    (steps : ∀ part c, part.closedBy c = false → step ⟨members, inside part⟩ c =
      (part.step c).map fun next => ⟨members, inside next⟩)
    {written : List Char} {part next : Partial}
    (goes : written.foldlM Partial.goOn part = some next) :
    Reads ⟨members, inside part⟩ written ⟨members, inside next⟩ := by
  induction written generalizing part with
  | nil =>
    obtain rfl : part = next := by simpa using goes
    rfl
  | cons c rest ih =>
    rw [List.foldlM_cons] at goes
    obtain ⟨middle, first, later⟩ := Option.bind_eq_some_iff.1 goes
    unfold Partial.goOn at first
    split at first
    next => contradiction
    next open' =>
      apply Reads.cons _ (ih later)
      rw [steps part c (by simpa using open'), first]
      rfl

theorem reads_string {inside : Partial → Phase}
    (steps : ∀ part c, part.closedBy c = false → step ⟨members, inside part⟩ c =
      (part.step c).map fun next => ⟨members, inside next⟩)
    {written : List Char} {text : String} (isString : IsString written text)
    (opens : step start '"' = some ⟨members, inside {}⟩)
    (closes : step ⟨members, inside ⟨text, .outside⟩⟩ '"' = some last) :
    Reads start written last := by
  cases isString with
  | @quoted written text spells =>
    apply Reads.cons opens
    have read := Partial.goOn_spells "" spells
    simp only [String.ofList_toList, String.empty_append] at read
    exact (reads_goOn inside steps read).append (.cons closes rfl)

theorem steps_key (members : List (String × String)) (part : Partial) (c : Char)
    (opened : part.closedBy c = false) :
    step ⟨members, .key part⟩ c = (part.step c).map fun next => ⟨members, .key next⟩ := by
  simp only [step, opened, Bool.false_eq_true, if_false]
  cases part.step c <;> rfl

theorem steps_value (members : List (String × String)) (key : String) (part : Partial) (c : Char)
    (opened : part.closedBy c = false) :
    step ⟨members, .value key part⟩ c =
      (part.step c).map fun next => ⟨members, .value key next⟩ := by
  simp only [step, opened, Bool.false_eq_true, if_false]
  cases part.step c <;> rfl

theorem reads_member {text : List Char} {entry : String × String} (member : IsMember text entry)
    (open' : phase = .brace ∨ phase = .comma) :
    Reads ⟨members, phase⟩ text ⟨members ++ [entry], .valueEnd⟩ := by
  cases member with
  | @pair w₀ k w₁ w₂ v w₃ key value before isKey behind between isValue after =>
    have spaces : Reads ⟨members, phase⟩ w₀ ⟨members, phase⟩ := by
      apply reads_blank before
      rcases open' with rfl | rfl <;> intro c space <;> simp [step, space]
    have keyRead : Reads ⟨members, phase⟩ k ⟨members, .keyEnd key⟩ := by
      apply reads_string (steps_key members) isKey
      · rcases open' with rfl | rfl <;> rfl
      · rfl
    have toColon : Reads ⟨members, .keyEnd key⟩ w₁ ⟨members, .keyEnd key⟩ :=
      reads_blank behind fun c space => by simp [step, space]
    have colon : step ⟨members, .keyEnd key⟩ ':' = some ⟨members, .colon key⟩ := rfl
    have toValue : Reads ⟨members, .colon key⟩ w₂ ⟨members, .colon key⟩ :=
      reads_blank between fun c space => by simp [step, space]
    have valueRead : Reads ⟨members, .colon key⟩ v ⟨members ++ [(key, value)], .valueEnd⟩ :=
      reads_string (steps_value members key) isValue rfl rfl
    have toEnd : Reads ⟨members ++ [(key, value)], .valueEnd⟩ w₃
        ⟨members ++ [(key, value)], .valueEnd⟩ :=
      reads_blank after fun c space => by simp [step, space]
    apply ((spaces.append keyRead).append toColon).append
    exact .cons colon ((toValue.append valueRead).append toEnd)

theorem reads_members {text : List Char} {entries : List (String × String)}
    (isMembers : IsMembers text entries) (open' : phase = .brace ∨ phase = .comma) :
    Reads ⟨members, phase⟩ text ⟨members ++ entries, .valueEnd⟩ := by
  induction isMembers generalizing members phase with
  | one member => exact reads_member member open'
  | @more text later entry entries member rest ih =>
    have further : Reads ⟨members ++ [entry], .comma⟩ later
        ⟨members ++ [entry] ++ entries, .valueEnd⟩ := ih (.inr rfl)
    rw [List.append_assoc, List.singleton_append] at further
    exact (reads_member member open').append (.cons rfl further)

end Reader

theorem members?_of_isObject {text : List Char} {entries : List (String × String)}
    (isObject : IsObject text entries) : members? text = some entries := by
  have read : Reader.Reads {} text ⟨entries, .done⟩ := by
    have opened {w : List Char} (blank : Blank w) : Reader.Reads {} w {} :=
      Reader.reads_blank blank fun c space => by simp [Reader.step, space]
    have closed {w : List Char} (blank : Blank w) :
        Reader.Reads ⟨entries, .done⟩ w ⟨entries, .done⟩ :=
      Reader.reads_blank blank fun c space => by simp [Reader.step, space]
    cases isObject with
    | empty before inside after =>
      have spaces : Reader.Reads ⟨[], .brace⟩ _ ⟨[], .brace⟩ :=
        Reader.reads_blank inside fun c space => by simp [Reader.step, space]
      exact (opened before).append (.cons rfl (spaces.append (.cons rfl (closed after))))
    | filled before members after =>
      have inner : Reader.Reads ⟨[], .brace⟩ _ ⟨[] ++ entries, .valueEnd⟩ :=
        Reader.reads_members members (.inl rfl)
      exact (opened before).append (.cons rfl (inner.append (.cons rfl (closed after))))
  unfold Reader.Reads at read
  simp [members?, read, Reader.finish?]

end ArtifactGroups.Alias.Json
