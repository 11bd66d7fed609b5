import ArtifactGroups.Text.Blank
import ArtifactGroups.Text.Order
import ArtifactGroups.Text.Search

/-! What is found in a text and how it is cut, when cutting and trimming change nothing, and where
an ASCII byte can stand in UTF-8. -/
namespace ArtifactGroups.Text

/-- A byte below 0x80 is never a part of a longer character. -/
theorem eq_of_ascii_mem_utf8EncodeChar {byte : UInt8} {c : Char} (ascii : byte.toNat < 128)
    (member : byte ∈ String.utf8EncodeChar c) : c.toNat = byte.toNat := by
  have bound := charCode_lt c
  change c.val.toNat = byte.toNat
  simp only [String.utf8EncodeChar] at member
  generalize c.val.toNat = code at *
  have large (n : Nat) (low : 128 ≤ n) (high : n < 256) (same : byte = UInt8.ofNat n) : False := by
    have := congrArg UInt8.toNat same
    rw [UInt8.toNat_ofNat_of_lt' high] at this
    omega
  split at member
  next small =>
    have same := congrArg UInt8.toNat (List.mem_singleton.1 member)
    rw [UInt8.toNat_ofNat_of_lt' (show code < 256 by omega)] at same
    exact same.symm
  next =>
    exfalso
    split at member
    next =>
      simp only [List.mem_cons, List.not_mem_nil, or_false] at member
      rcases member with same | same <;> exact large _ (by omega) (by omega) same
    next =>
      split at member
      next =>
        simp only [List.mem_cons, List.not_mem_nil, or_false] at member
        rcases member with same | same | same <;> exact large _ (by omega) (by omega) same
      next =>
        simp only [List.mem_cons, List.not_mem_nil, or_false] at member
        rcases member with same | same | same | same <;> exact large _ (by omega) (by omega) same

theorem ascii_mem_utf8 {byte : UInt8} {text : String} (ascii : byte.toNat < 128)
    (member : byte ∈ utf8 text) : Char.ofNat byte.toNat ∈ text.toList := by
  rw [utf8_eq] at member
  obtain ⟨c, inText, inChar⟩ := List.mem_flatMap.1 member
  rw [← eq_of_ascii_mem_utf8EncodeChar ascii inChar, Char.ofNat_toNat]
  exact inText

theorem getLast?_of_ascii_utf8 {byte : UInt8} {text : String} (ascii : byte.toNat < 128)
    (last : (utf8 text).getLast? = some byte) :
    text.toList.getLast? = some (Char.ofNat byte.toNat) := by
  rw [utf8_eq] at last
  cases h : text.toList.getLast? with
  | none => simp [List.getLast?_eq_none_iff.1 h] at last
  | some c =>
    obtain ⟨before, chars⟩ := List.getLast?_eq_some_iff.1 h
    rw [chars, List.flatMap_append, List.flatMap_singleton, List.getLast?_append] at last
    have nonempty := String.utf8EncodeChar_ne_nil (c := c)
    rw [List.getLast?_eq_some_getLast nonempty, Option.some_or] at last
    have member := List.getLast_mem nonempty
    rw [Option.some.inj last] at member
    rw [← eq_of_ascii_mem_utf8EncodeChar ascii member, Char.ofNat_toNat]

theorem ofUtf8?_eq_some_iff {bytes : Bytes} {text : String} :
    ofUtf8? bytes = some text ↔ bytes = utf8 text := by
  constructor
  · intro read
    unfold ofUtf8? String.fromUTF8? at read
    split at read
    next valid =>
      obtain rfl := Option.some.inj read
      simp [utf8, String.fromUTF8]
    next => contradiction
  · rintro rfl
    exact ofUtf8?_utf8 text

theorem dropWhile_of_head? {α : Type} {p : α → Bool} {xs : List α}
    (head : xs.head?.any p = false) : xs.dropWhile p = xs := by
  cases xs with
  | nil => rfl
  | cons x rest => exact List.dropWhile_cons_of_neg (by simpa using head)

theorem trim_eq_self {text : String} (head : text.toList.head?.any isBlank = false)
    (last : text.toList.getLast?.any isBlank = false) : trim text = text := by
  rw [← List.head?_reverse] at last
  rw [trim, dropWhile_of_head? head, dropWhile_of_head? last, List.reverse_reverse,
    String.ofList_toList]

theorem trim_append_blank {c : Char} (blank : isBlank c = true) (text : String) :
    trim (text ++ c.toString) = trim text := by
  have chars : (text ++ c.toString).toList = text.toList ++ [c] := by simp
  rw [trim, trim, chars, List.dropWhile_append]
  split
  next all =>
    rw [List.isEmpty_iff.1 all]
    simp [blank]
  next =>
    rw [List.reverse_append, List.reverse_singleton, List.singleton_append,
      List.dropWhile_cons_of_pos blank]

theorem startsWith_iff_append {text pattern : String} :
    startsWith text pattern = true ↔ ∃ after, text = pattern ++ after := by
  rw [startsWith_iff]
  constructor
  · rintro ⟨after, chars⟩
    exact ⟨String.ofList after, String.toList_injective (by simp [chars])⟩
  · rintro ⟨after, rfl⟩
    exact ⟨after.toList, by simp⟩

theorem contains_iff_append {text pattern : String} :
    contains text pattern = true ↔ ∃ before after, text = before ++ pattern ++ after := by
  rw [contains_iff]
  constructor
  · rintro ⟨before, after, chars⟩
    refine ⟨String.ofList before, String.ofList after, String.toList_injective ?_⟩
    simp [← chars]
  · rintro ⟨before, after, rfl⟩
    exact ⟨before.toList, after.toList, by simp⟩

theorem pieces_eq_singleton {separator : Char} {text : String}
    (free : separator ∉ text.toList) : pieces separator text = [text] := by
  rw [pieces, List.splitOn_eq_singleton free, List.map_singleton, String.ofList_toList]

theorem pieces_append_separator (separator : Char) (text more : String) :
    pieces separator (text ++ separator.toString ++ more) =
      pieces separator text ++ pieces separator more := by
  have chars : (text ++ separator.toString ++ more).toList =
      text.toList ++ separator :: more.toList := by
    simp
  rw [pieces, chars, List.splitOn_append_cons_self, List.map_append, pieces, pieces]

theorem not_mem_of_mem_splitOn {α : Type} [BEq α] [LawfulBEq α] {separator : α}
    {xs piece : List α} (member : piece ∈ xs.splitOn separator) : separator ∉ piece := by
  induction xs generalizing piece with
  | nil =>
    rw [List.splitOn_nil, List.mem_singleton] at member
    simp [member]
  | cons x rest ih =>
    rw [List.splitOn_cons_eq_if_modifyHead] at member
    split at member
    next =>
      rcases List.mem_cons.1 member with rfl | later
      · exact List.not_mem_nil
      · exact ih later
    next other =>
      obtain ⟨first, others, parts⟩ :=
        List.exists_cons_of_ne_nil (List.splitOn_ne_nil separator rest)
      rw [parts, List.modifyHead_cons] at member
      rcases List.mem_cons.1 member with rfl | later
      · have free : separator ∉ first := ih (by simp [parts])
        simp only [List.mem_cons, not_or]
        exact ⟨fun same => other (by simp [same]), free⟩
      · exact ih (by simp [parts, later])

theorem not_mem_of_mem_pieces {separator : Char} {text piece : String}
    (member : piece ∈ pieces separator text) : separator ∉ piece.toList := by
  obtain ⟨chars, cut, rfl⟩ := List.mem_map.1 member
  rw [String.toList_ofList]
  exact not_mem_of_mem_splitOn cut

theorem forall_pieces_empty_iff {separator : Char} {text : String} :
    (∀ piece ∈ pieces separator text, piece = "") ↔ ∀ c ∈ text.toList, c = separator := by
  simp only [pieces, List.forall_mem_map, String.ofList_eq_empty_iff]
  induction text.toList with
  | nil => simp
  | cons c rest ih =>
    rw [List.splitOn_cons_eq_if_modifyHead]
    by_cases same : c = separator
    · simpa [same] using ih
    · obtain ⟨first, others, parts⟩ :=
        List.exists_cons_of_ne_nil (List.splitOn_ne_nil separator rest)
      simp [same, parts]

/-- The first piece ends at the first separator, and the other pieces are those of what follows. -/
theorem pieces_eq_cons_iff {separator : Char} {text first : String} {others : List String} :
    pieces separator text = first :: others ↔ separator ∉ first.toList ∧
      (others = [] ∧ text = first ∨
        ∃ later, text = first ++ separator.toString ++ later ∧
          pieces separator later = others) := by
  constructor
  · intro cut
    have free : separator ∉ first.toList := not_mem_of_mem_pieces (cut ▸ List.mem_cons_self)
    refine ⟨free, ?_⟩
    by_cases member : separator ∈ text.toList
    · obtain ⟨front, back, chars, absent⟩ := List.eq_append_cons_of_mem member
      rw [pieces, chars, List.splitOn_append_cons_self_of_not_mem absent, List.map_cons] at cut
      obtain ⟨rfl, rfl⟩ := List.cons.inj cut
      refine .inr ⟨String.ofList back, String.toList_injective ?_, by simp [pieces]⟩
      simp [chars]
    · rw [pieces_eq_singleton member] at cut
      obtain ⟨rfl, rfl⟩ := List.cons.inj cut
      exact .inl ⟨rfl, rfl⟩
  · rintro ⟨free, ⟨rfl, rfl⟩ | ⟨later, rfl, rfl⟩⟩
    · exact pieces_eq_singleton free
    · rw [pieces_append_separator, pieces_eq_singleton free, List.singleton_append]

theorem exists_pieces_eq_cons_iff {separator : Char} {text first : String} :
    (∃ others, pieces separator text = first :: others) ↔ separator ∉ first.toList ∧
      ∃ rest, text = first ++ rest ∧ (rest = "" ∨ rest.toList.head? = some separator) := by
  simp only [pieces_eq_cons_iff]
  constructor
  · rintro ⟨others, free, ⟨-, rfl⟩ | ⟨later, rfl, -⟩⟩
    · exact ⟨free, "", String.append_empty.symm, .inl rfl⟩
    · exact ⟨free, separator.toString ++ later, String.append_assoc, .inr (by simp)⟩
  · rintro ⟨free, rest, rfl, rfl | opened⟩
    · exact ⟨[], free, .inl ⟨rfl, String.append_empty⟩⟩
    · obtain ⟨later, chars⟩ := List.head?_eq_some_iff.1 opened
      refine ⟨_, free, .inr ⟨String.ofList later, String.toList_injective ?_, rfl⟩⟩
      simp [chars]

theorem length_pieces (separator : Char) (text : String) :
    (pieces separator text).length = text.toList.count separator + 1 := by
  rw [pieces, List.length_map]
  induction text.toList with
  | nil => rfl
  | cons c rest ih =>
    rw [List.splitOn_cons_eq_if_modifyHead, List.count_cons]
    split <;> simp [ih]

/-- The lines of a text. What follows the last line feed is a line too, unless it is empty. -/
def lines (text : String) : List String :=
  let pieces := pieces '\n' text
  if pieces.getLast? = some "" then pieces.dropLast else pieces

theorem lines_append_newline (text more : String) :
    lines (text ++ '\n'.toString ++ more) = pieces '\n' text ++ lines more := by
  have nonempty : pieces '\n' more ≠ [] := by simp [pieces]
  have last : (pieces '\n' text ++ pieces '\n' more).getLast? = (pieces '\n' more).getLast? := by
    rw [List.getLast?_append, List.getLast?_eq_some_getLast nonempty, Option.some_or]
  simp only [lines, pieces_append_separator, last, List.dropLast_append_of_ne_nil nonempty]
  split <;> rfl

theorem flatMap_intercalate {α β : Type} (f : α → List β) (separator : α) (parts : List (List α)) :
    ([separator].intercalate parts).flatMap f =
      (f separator).intercalate (parts.map (·.flatMap f)) := by
  induction parts with
  | nil => rfl
  | cons part rest ih =>
    cases rest with
    | nil => simp
    | cons next rest =>
      rw [List.map_cons, List.map_cons, List.intercalate_cons_cons, List.intercalate_cons_cons,
        List.flatMap_append, List.flatMap_append, ih, List.flatMap_singleton, List.map_cons]

theorem pieces_intercalate {separator : Char} {parts : List String} (nonempty : parts ≠ [])
    (free : ∀ part ∈ parts, separator ∉ part.toList) :
    pieces separator (separator.toString.intercalate parts) = parts := by
  have chars : (separator.toString.intercalate parts).toList =
      [separator].intercalate (parts.map String.toList) := by
    simp [String.toList_intercalate]
  have cut : ([separator].intercalate (parts.map String.toList)).splitOn separator =
      parts.map String.toList :=
    List.splitOn_intercalate separator (by simpa using free) (by simpa using nonempty)
  rw [pieces, chars, cut, List.map_map]
  simp [Function.comp_def]

theorem mem_intercalate {separator : String} {parts : List String} {c : Char}
    (member : c ∈ (separator.intercalate parts).toList) :
    c ∈ separator.toList ∨ ∃ part ∈ parts, c ∈ part.toList := by
  induction parts with
  | nil => simp at member
  | cons part rest ih =>
    cases rest with
    | nil =>
      rw [String.intercalate_singleton] at member
      exact .inr ⟨part, List.mem_cons_self, member⟩
    | cons next rest =>
      rw [String.intercalate_cons_cons, String.toList_append, String.toList_append,
        List.mem_append, List.mem_append] at member
      rcases member with (here | between) | later
      · exact .inr ⟨part, List.mem_cons_self, here⟩
      · exact .inl between
      · exact (ih later).imp_right fun ⟨other, inside, there⟩ =>
          ⟨other, List.mem_cons_of_mem _ inside, there⟩

def before (separator : Char) (text : String) : String :=
  String.ofList (text.toList.takeWhile (· != separator))

def behind (separator : Char) (text : String) : String :=
  String.ofList (text.toList.dropWhile (· != separator)).tail

theorem before_behind_of_append {separator : Char} {text : String} {first last : List Char}
    (chars : text.toList = first ++ separator :: last) (free : separator ∉ first) :
    before separator text = String.ofList first ∧ behind separator text = String.ofList last := by
  have passed : ∀ c ∈ first, (c != separator) = true := by
    intro c inside
    have other : c ≠ separator := fun same => free (same ▸ inside)
    simpa using other
  simp [before, behind, chars, List.takeWhile_append_of_pos passed,
    List.dropWhile_append_of_pos passed]

theorem before_append_behind {separator : Char} {text : String}
    (member : separator ∈ text.toList) :
    before separator text ++ separator.toString ++ behind separator text = text := by
  obtain ⟨first, last, chars, free⟩ := List.eq_append_cons_of_mem member
  obtain ⟨head, tail⟩ := before_behind_of_append chars free
  apply String.toList_injective
  simp [head, tail, chars]

theorem pieces_of_count_eq_one {separator : Char} {text : String}
    (once : text.toList.count separator = 1) :
    pieces separator text = [before separator text, behind separator text] := by
  have member : separator ∈ text.toList := List.count_pos_iff.1 (by omega)
  obtain ⟨first, last, chars, free⟩ := List.eq_append_cons_of_mem member
  obtain ⟨head, tail⟩ := before_behind_of_append chars free
  have noMore : separator ∉ last := by
    rw [chars, List.count_append, List.count_cons_self] at once
    exact List.count_eq_zero.1 (by omega)
  rw [pieces, chars, List.splitOn_append_cons_self_of_not_mem free,
    List.splitOn_eq_singleton noMore, head, tail]
  rfl

end ArtifactGroups.Text
