import ArtifactGroups.Alias.Input
import ArtifactGroups.Proofs.Text

/-! How a content falls apart into lines: `Lined` says which pieces end with a newline and what
follows the last one, and every content has such a form. From it come the reading back of lines
that were written as text, what a stream offers as lines, and when the reading of a content
fails. -/
namespace ArtifactGroups.Alias.Input

/-- The text can be written as a line of its own and read back. -/
structure IsLine (text : String) : Prop where
  newline_free : '\n' ∉ text.toList
  no_return : text.toList.getLast? ≠ some '\r'

theorem IsLine.newline_not_mem {text : String} (line : IsLine text) :
    newline ∉ Text.utf8 text := fun member =>
  line.newline_free (Text.ascii_mem_utf8 (by decide) member)

theorem IsLine.withoutReturn_eq {text : String} (line : IsLine text) :
    withoutReturn (Text.utf8 text) = Text.utf8 text :=
  if_neg fun last => line.no_return (Text.getLast?_of_ascii_utf8 (by decide) last)

/-- The bytes are these lines, a newline behind each, and a rest without a newline. -/
structure Lined (bytes : Bytes) (lines : List Bytes) (rest : Bytes) : Prop where
  eq : bytes = (lines.map (· ++ [newline])).flatten ++ rest
  lines_free : ∀ line ∈ lines, newline ∉ line
  rest_free : newline ∉ rest

theorem Lined.splitOn_eq {bytes rest : Bytes} {lines : List Bytes}
    (lined : Lined bytes lines rest) : bytes.splitOn newline = lines ++ [rest] := by
  obtain ⟨rfl, free, last⟩ := lined
  induction lines with
  | nil => exact List.splitOn_eq_singleton last
  | cons line others ih =>
    have later := ih fun other member => free other (List.mem_cons_of_mem _ member)
    have first := free line List.mem_cons_self
    rw [List.map_cons, List.flatten_cons, List.append_assoc, List.append_assoc,
      List.singleton_append, List.splitOn_append_cons_self_of_not_mem first, later,
      List.cons_append]

theorem Lined.cut_eq {bytes rest : Bytes} {lines : List Bytes}
    (lined : Lined bytes lines rest) : cut bytes = (lines.map withoutReturn, rest) := by
  simp [cut, lined.splitOn_eq]

theorem lined_texts (texts : List String) (each : ∀ text ∈ texts, IsLine text) :
    Lined (Text.utf8 (String.join (texts.map (· ++ "\n")))) (texts.map Text.utf8) [] := by
  refine ⟨?_, ?_, List.not_mem_nil⟩
  · induction texts with
    | nil => rfl
    | cons text rest ih =>
      have later := ih fun other member => each other (List.mem_cons_of_mem _ member)
      rw [List.map_cons, String.join_cons, Text.utf8_append, Text.utf8_append, later]
      simp only [List.map_cons, List.flatten_cons, List.append_assoc]
      rfl
  · intro line member
    obtain ⟨text, inside, rfl⟩ := List.mem_map.1 member
    exact (each text inside).newline_not_mem

theorem decode_utf8 (texts : List String) : decode (texts.map Text.utf8) = (texts, none) := by
  induction texts with
  | nil => rfl
  | cons text rest ih => simp [decode, ih]

theorem lines_of_texts (texts : List String) (each : ∀ text ∈ texts, IsLine text) :
    ({ bytes := Text.utf8 (String.join (texts.map (· ++ "\n"))) } : Input).lines =
      (texts, none) := by
  have kept : (texts.map Text.utf8).map withoutReturn = texts.map Text.utf8 := by
    rw [List.map_map]
    exact List.map_congr_left fun text member => (each text member).withoutReturn_eq
  have parts : cut (Text.utf8 (String.join (texts.map (· ++ "\n")))) =
      (texts.map Text.utf8, []) := by
    rw [(lined_texts texts each).cut_eq, kept]
  simp only [lines, parts, List.isEmpty_nil, if_true, decode_utf8]

def lineBytes (bytes : Bytes) : List Bytes :=
  let (finished, unfinished) := cut bytes
  if unfinished.isEmpty then finished else finished ++ [unfinished]

theorem decode_failure (lines : List Bytes) :
    (decode lines).2 =
      if ∀ line ∈ lines, (Text.ofUtf8? line).isSome then none else some .notUtf8 := by
  induction lines with
  | nil => simp [decode]
  | cons line rest ih =>
    cases decoded : Text.ofUtf8? line with
    | none => simp [decode, decoded]
    | some text => simp [decode, decoded, ih]

/-- Reading a whole content fails only for a line that is not UTF-8. -/
theorem lines_failure (bytes : Bytes) :
    ({ bytes } : Input).lines.2 =
      if ∀ line ∈ lineBytes bytes, (Text.ofUtf8? line).isSome then none else some .notUtf8 :=
  decode_failure (lineBytes bytes)

theorem exists_lined (bytes : Bytes) : ∃ lines rest, Lined bytes lines rest := by
  induction bytes with
  | nil => exact ⟨[], [], by simp, by simp, by simp⟩
  | cons byte more ih =>
    obtain ⟨lines, rest, rfl, free, last⟩ := ih
    by_cases ends : byte = newline
    · exact ⟨[] :: lines, rest, by simp [ends], by simpa using free, last⟩
    · have other : newline ≠ byte := Ne.symm ends
      cases lines with
      | nil => exact ⟨[], byte :: rest, by simp, by simp, by simp [other, last]⟩
      | cons line others =>
        refine ⟨(byte :: line) :: others, rest, by simp, ?_, last⟩
        simp only [List.mem_cons, forall_eq_or_imp, not_or] at free ⊢
        exact ⟨⟨other, free.1⟩, free.2⟩

/-- The pieces that a stream offers as lines: those in front of a newline, and what follows the
last newline unless it is empty or lost in a failure. -/
def offered (input : Input) : List Bytes :=
  let pieces := input.bytes.splitOn newline
  if input.failure.isSome ∨ pieces.getLast? = some [] then pieces.dropLast else pieces

theorem Lined.offered_eq {bytes rest : Bytes} {lines : List Bytes}
    (lined : Lined bytes lines rest) (failure : Option IoError) :
    ({ bytes, failure } : Input).offered =
      if failure.isSome ∨ rest = [] then lines else lines ++ [rest] := by
  simp [offered, lined.splitOn_eq]

theorem splitOn_utf8 (text : String) :
    (Text.utf8 text).splitOn newline = (Text.pieces '\n' text).map Text.utf8 := by
  have encoded : ∀ chars : List Char, Text.utf8 (String.ofList chars) =
      chars.flatMap String.utf8EncodeChar := by
    intro chars
    rw [Text.utf8_eq, String.toList_ofList]
  have parts : (Text.pieces '\n' text).map Text.utf8 =
      (text.toList.splitOn '\n').map (·.flatMap String.utf8EncodeChar) := by
    simp only [Text.pieces, List.map_map, Function.comp_def, encoded]
  have whole : Text.utf8 text = [newline].intercalate ((Text.pieces '\n' text).map Text.utf8) := by
    have newlineBytes : String.utf8EncodeChar '\n' = [newline] := by decide
    rw [parts, ← newlineBytes, ← Text.flatMap_intercalate, List.intercalate_splitOn, Text.utf8_eq]
  rw [whole, List.splitOn_intercalate]
  · intro piece member
    obtain ⟨line, inside, rfl⟩ := List.mem_map.1 member
    intro newline
    exact Text.not_mem_of_mem_pieces inside (Text.ascii_mem_utf8 (by decide) newline)
  · simp [Text.pieces, List.splitOn_ne_nil]

theorem offered_utf8 (text : String) :
    ({ bytes := Text.utf8 text } : Input).offered = (Text.lines text).map Text.utf8 := by
  have nothing (line : String) : Text.utf8 line = [] ↔ line = "" :=
    ⟨fun same => Text.utf8_injective (same.trans Text.utf8_empty.symm), fun same => same ▸ rfl⟩
  simp only [offered, Text.lines, splitOn_utf8, List.getLast?_map, Option.map_eq_some_iff, nothing,
    exists_eq_right, Option.isSome_none, Bool.false_eq_true, false_or, ← List.map_dropLast]
  split <;> rfl

theorem withoutReturn_append (line : Bytes) :
    withoutReturn (line ++ [carriageReturn]) = line := by
  simp [withoutReturn]

theorem withoutReturn_cases (line : Bytes) :
    withoutReturn line = line ∨ line = withoutReturn line ++ [carriageReturn] := by
  unfold withoutReturn
  split
  next last =>
    obtain ⟨before, rfl⟩ := List.getLast?_eq_some_iff.1 last
    exact .inr (by simp)
  next => exact .inl rfl

theorem ofUtf8?_append_return (line : Bytes) :
    Text.ofUtf8? (line ++ [carriageReturn]) =
      (Text.ofUtf8? line).map (· ++ '\r'.toString) := by
  have encoded : Text.utf8 '\r'.toString = [carriageReturn] := by decide
  cases read : Text.ofUtf8? line with
  | some text =>
    rw [Text.ofUtf8?_eq_some_iff] at read
    rw [read, ← encoded, ← Text.utf8_append, Text.ofUtf8?_utf8, Option.map_some]
  | none =>
    cases whole : Text.ofUtf8? (line ++ [carriageReturn]) with
    | none => rfl
    | some text =>
      rw [Text.ofUtf8?_eq_some_iff] at whole
      have last : (Text.utf8 text).getLast? = some carriageReturn := by simp [← whole]
      obtain ⟨before, chars⟩ :=
        List.getLast?_eq_some_iff.1 (Text.getLast?_of_ascii_utf8 (by decide) last)
      have parts : text = String.ofList before ++ '\r'.toString :=
        String.toList_injective (by simp [chars]; rfl)
      rw [parts, Text.utf8_append, encoded, List.append_left_inj] at whole
      rw [whole, Text.ofUtf8?_utf8] at read
      contradiction

def withReturns (bytes : Bytes) : Bytes :=
  bytes.flatMap fun byte => if byte = newline then [carriageReturn, newline] else [byte]

theorem withReturns_of_free {bytes : Bytes} (free : newline ∉ bytes) :
    withReturns bytes = bytes := by
  induction bytes with
  | nil => rfl
  | cons byte rest ih =>
    simp only [List.mem_cons, not_or] at free
    rw [withReturns, List.flatMap_cons, ← withReturns, ih free.2, if_neg (Ne.symm free.1),
      List.singleton_append]

theorem Lined.withReturns {bytes rest : Bytes} {lines : List Bytes}
    (lined : Lined bytes lines rest) :
    Lined (withReturns bytes) (lines.map (· ++ [carriageReturn])) rest := by
  obtain ⟨rfl, free, last⟩ := lined
  refine ⟨?_, ?_, last⟩
  · induction lines with
    | nil => exact withReturns_of_free last
    | cons line others ih =>
      have later := ih fun other member => free other (List.mem_cons_of_mem _ member)
      have first := withReturns_of_free (free line List.mem_cons_self)
      unfold Input.withReturns at later first ⊢
      simp only [List.map_cons, List.flatten_cons, List.append_assoc, List.flatMap_append, first,
        List.flatMap_cons, List.flatMap_nil] at later ⊢
      simp [later]
  · intro line member
    obtain ⟨other, inside, rfl⟩ := List.mem_map.1 member
    have := free other inside
    simp only [List.mem_append, List.mem_singleton, not_or]
    exact ⟨this, by decide⟩

theorem Lined.closed {bytes rest : Bytes} {lines : List Bytes} (lined : Lined bytes lines rest) :
    Lined (bytes ++ [newline]) (lines ++ [rest]) [] := by
  obtain ⟨rfl, free, last⟩ := lined
  refine ⟨by simp, ?_, by simp⟩
  simp only [List.mem_append, List.mem_singleton]
  rintro line (member | rfl)
  · exact free line member
  · exact last

theorem Lined.append {bytes more rest : Bytes} {lines others : List Bytes}
    (lined : Lined bytes lines []) (further : Lined more others rest) :
    Lined (bytes ++ more) (lines ++ others) rest := by
  refine ⟨?_, ?_, further.rest_free⟩
  · simp [lined.eq, further.eq]
  · simp only [List.mem_append]
    rintro line (member | member)
    · exact lined.lines_free line member
    · exact further.lines_free line member

theorem Lined.rest_eq_nil_iff {bytes rest : Bytes} {lines : List Bytes}
    (lined : Lined bytes lines rest) :
    rest = [] ↔ bytes = [] ∨ bytes.getLast? = some newline := by
  obtain ⟨rfl, free, last⟩ := lined
  constructor
  · rintro rfl
    rcases List.eq_nil_or_concat lines with rfl | ⟨before, line, rfl⟩
    · exact .inl rfl
    · exact .inr (by simp)
  · rintro (nothing | ended)
    · exact (List.append_eq_nil_iff.1 nothing).2
    · false_or_by_contra
      rename_i more
      rw [List.getLast?_append, List.getLast?_eq_some_getLast more, Option.some_or] at ended
      exact last (Option.some.inj ended ▸ List.getLast_mem more)

end ArtifactGroups.Alias.Input
