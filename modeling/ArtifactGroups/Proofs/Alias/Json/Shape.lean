import ArtifactGroups.Proofs.Alias.Edits
import ArtifactGroups.Proofs.Alias.Json.RoundTrip
import ArtifactGroups.Proofs.Text

/-! The written form of a table, line by line, and what a sink of any room keeps of it. All control
characters of a text are escaped, so line feeds stand between members only, and the number of
lines is that of the entries. -/
namespace ArtifactGroups.Alias

namespace Json

/-- Two strings with a colon between them, indented by two spaces. -/
def memberLine (entry : String × String) : String :=
  "  " ++ String.ofList (string entry.1) ++ ": " ++ String.ofList (string entry.2)

/-- One line for each member, and a comma behind all but the last. -/
def memberLines : List (String × String) → List String
  | [] => []
  | [entry] => [memberLine entry]
  | entry :: next :: rest => (memberLine entry ++ ",") :: memberLines (next :: rest)

def lines : List (String × String) → List String
  | [] => ["\x7b\x7d"]
  | entry :: rest => "\x7b" :: (memberLines (entry :: rest) ++ ["\x7d"])

/-- None of the characters is a control character below the space. -/
def Visible (text : List Char) : Prop := ∀ c ∈ text, 0x20 ≤ c.toNat

instance (text : List Char) : Decidable (Visible text) := List.decidableBAll _ text

theorem Visible.append {text more : List Char} (first : Visible text) (second : Visible more) :
    Visible (text ++ more) := fun c member =>
  (List.mem_append.1 member).elim (first c) (second c)

theorem visible_escape (c : Char) : Visible (escape c) := by
  have letters : ∀ escape ∈ shortEscapes, Visible ['\\', escape.1] := by decide
  have digits : ∀ n < 16, 0x20 ≤ (Nat.digitChar n).toNat := by decide
  rcases escape_cases c with ⟨letter, member, form⟩ | ⟨control, form⟩ | ⟨-, -, visible, form⟩
  · rw [form]
    exact letters _ member
  · have first := digits (c.toNat / 16) (by omega)
    have second := digits (c.toNat % 16) (by omega)
    rw [form, controlCode]
    simp [Visible, first, second]
  · rw [form]
    simpa [Visible] using visible

theorem visible_string (text : String) : Visible (string text) := by
  have quote : Visible ['"'] := by decide
  have inside : Visible (text.toList.flatMap escape) := by
    intro c member
    obtain ⟨d, -, written⟩ := List.mem_flatMap.1 member
    exact visible_escape d c written
  exact (quote.append inside).append quote

theorem visible_memberLine (entry : String × String) : Visible (memberLine entry).toList := by
  have indent : Visible [' ', ' '] := by decide
  have colon : Visible [':', ' '] := by decide
  simpa [memberLine] using ((indent.append (visible_string entry.1)).append colon).append
    (visible_string entry.2)

theorem visible_of_mem_memberLines {entries : List (String × String)} {line : String}
    (member : line ∈ memberLines entries) : Visible line.toList := by
  induction entries with
  | nil => simp [memberLines] at member
  | cons entry rest ih =>
    cases rest with
    | nil =>
      rw [memberLines, List.mem_singleton] at member
      exact member ▸ visible_memberLine entry
    | cons next rest =>
      rw [memberLines, List.mem_cons] at member
      rcases member with rfl | later
      · rw [String.toList_append]
        exact (visible_memberLine entry).append (by decide)
      · exact ih later

theorem visible_of_mem_lines {entries : List (String × String)} {line : String}
    (member : line ∈ lines entries) : Visible line.toList := by
  cases entries with
  | nil =>
    rw [lines, List.mem_singleton] at member
    exact member ▸ by decide
  | cons entry rest =>
    rw [lines, List.mem_cons, List.mem_append, List.mem_singleton] at member
    rcases member with rfl | inside | rfl
    · decide
    · exact visible_of_mem_memberLines inside
    · decide

theorem length_memberLines (entries : List (String × String)) :
    (memberLines entries).length = entries.length := by
  induction entries with
  | nil => rfl
  | cons entry rest ih =>
    cases rest with
    | nil => rfl
    | cons next rest => simp [memberLines, ih]

theorem intercalate_memberLines (entry : String × String) (rest : List (String × String)) :
    ("\n".intercalate (memberLines (entry :: rest) ++ ["\x7d"])).toList =
      [',', '\n'].intercalate ((entry :: rest).map member) ++ ['\n', '\x7d'] := by
  have chars (entry : String × String) : (memberLine entry).toList = member entry := by
    simp [memberLine, member]
  induction rest generalizing entry with
  | nil => simp [memberLines, String.intercalate_cons_cons, chars]
  | cons next rest ih =>
    have later := ih next
    obtain ⟨first, others, parts⟩ : ∃ first others,
        memberLines (next :: rest) ++ ["\x7d"] = first :: others :=
      List.exists_cons_of_ne_nil (by simp)
    rw [parts] at later
    rw [memberLines, List.cons_append, parts, String.intercalate_cons_cons, List.map_cons,
      List.map_cons, List.intercalate_cons_cons, ← List.map_cons, List.append_assoc, ← later]
    simp [chars]

theorem object_eq (entries : List (String × String)) :
    object entries = ("\n".intercalate (lines entries)).toList := by
  cases entries with
  | nil => rfl
  | cons entry rest =>
    obtain ⟨first, others, parts⟩ : ∃ first others,
        memberLines (entry :: rest) ++ ["\x7d"] = first :: others :=
      List.exists_cons_of_ne_nil (by simp)
    have inner := intercalate_memberLines entry rest
    rw [parts] at inner
    rw [lines, parts, String.intercalate_cons_cons, String.toList_append, inner]
    simp [object]

theorem string_of_plain {text : String}
    (plain : ∀ c ∈ text.toList, c ≠ '"' ∧ c ≠ '\\' ∧ 0x20 ≤ c.toNat) :
    string text = '"' :: (text.toList ++ ['"']) := by
  have each : ∀ c ∈ text.toList, escape c = [c] := by
    intro c member
    obtain ⟨noQuote, noBackslash, visible⟩ := plain c member
    have other (d : Char) (control : d.toNat < 0x20) : c ≠ d := by
      rintro rfl
      omega
    simp [escape, noQuote, noBackslash, other '\x08', other '\t', other '\n', other '\x0c',
      other '\r', Nat.not_lt.2 visible]
  rw [string, List.flatMap_def, List.map_congr_left each, ← List.flatMap_def,
    List.flatMap_singleton', List.cons_append]

end Json

namespace Table

/-- Hands a text over in pieces and flushes after the last. A failed write ends it. -/
def writePieces (pieces : List String) (sink : Sink) : Sink × Option Error :=
  match sink.writeTexts pieces with
  | (sink, some fault) => (sink, some (.json fault.message))
  | (sink, none) =>
    let (sink, fault) := sink.flush
    (sink, fault.map .io)

theorem writeJson_eq_writePieces (table : Table) (sink : Sink) :
    table.writeJson sink = writePieces [table.toJson] sink := by
  rw [writeJson, writePieces, Sink.writeTexts]
  split <;> next written => simp only [written, Sink.writeTexts]

theorem flatMap_utf8 (pieces : List String) :
    pieces.flatMap Text.utf8 = Text.utf8 (String.join pieces) := by
  induction pieces with
  | nil => rfl
  | cons piece rest ih => rw [List.flatMap_cons, ih, String.join_cons, Text.utf8_append]

/-- Only the text matters, not the pieces: what there is room for is stored, and there is one flush
if that is all. -/
theorem writePieces_spec (pieces : List String) (sink : Sink) :
    let bytes := Text.utf8 (String.join pieces)
    (writePieces pieces sink).1.stored = sink.stored ++ sink.kept bytes ∧
      (writePieces pieces sink).1.flushes = sink.flushes + (if sink.Fits bytes then 1 else 0) ∧
      (writePieces pieces sink).2 =
        if sink.Fits bytes then sink.flush.2.map .io
        else some (.json sink.writeError.message) := by
  intro bytes
  obtain ⟨grown, fault⟩ := sink.writeTexts_spec pieces
  rw [flatMap_utf8] at grown fault
  rw [writePieces]
  by_cases fits : sink.Fits bytes
  · rw [if_pos fits] at fault
    have written : sink.writeTexts pieces = ((sink.writeTexts pieces).1, none) :=
      Prod.ext rfl fault
    rw [written, if_pos fits, if_pos fits]
    refine ⟨?_, ?_, ?_⟩
    · exact (Sink.stored_flush _).trans grown.stored_eq
    · exact (Sink.flushes_flush _).trans (congrArg (· + 1) grown.flushes_eq)
    · exact congrArg (Option.map Error.io) grown.flush_fault
  · rw [if_neg fits] at fault
    have written : sink.writeTexts pieces =
        ((sink.writeTexts pieces).1, some sink.writeError) := Prod.ext rfl fault
    rw [written, if_neg fits, if_neg fits]
    exact ⟨grown.stored_eq, grown.flushes_eq, rfl⟩

theorem toJson_eq_intercalate (table : Table) :
    table.toJson = "\n".intercalate (Json.lines table.entries) := by
  rw [toJson, Json.object_eq, String.ofList_toList]

theorem pieces_toJson (table : Table) :
    Text.pieces '\n' table.toJson = Json.lines table.entries := by
  have newline : "\n" = '\n'.toString := rfl
  rw [toJson_eq_intercalate, newline]
  apply Text.pieces_intercalate
  · cases table.entries <;> simp [Json.lines]
  · intro line member inside
    exact absurd (Json.visible_of_mem_lines member '\n' inside) (by decide)

theorem count_newline_toJson (table : Table) :
    table.toJson.toList.count '\n' = if table.isEmpty then 0 else table.size + 1 := by
  have count := Text.length_pieces '\n' table.toJson
  rw [pieces_toJson] at count
  rw [isEmpty, size]
  cases entries : table.entries with
  | nil =>
    rw [entries] at count
    exact (Nat.succ.inj count).symm
  | cons entry rest =>
    rw [entries, Json.lines, List.length_cons, List.length_append, Json.length_memberLines] at count
    exact (Nat.succ.inj count).symm

theorem eq_newline_of_mem_toJson {table : Table} {c : Char} (member : c ∈ table.toJson.toList)
    (control : c.toNat < 0x20) : c = '\n' := by
  rw [toJson_eq_intercalate] at member
  rcases Text.mem_intercalate member with between | ⟨line, inside, there⟩
  · exact List.mem_singleton.1 between
  · have visible := Json.visible_of_mem_lines inside c there
    omega

/-- The text of a table has its entries on lines of their own, in the order of the keys; the quotes
stand around a spelling of each text, which is the text itself if there is nothing to escape. No
other line feeds or control characters occur. A sink keeps as much of it as it has room for and is
flushed only after all of it, in whatever pieces it is handed over. -/
theorem toJson_shape (table : Table) :
    let text := table.toJson
    let bytes := Text.utf8 text
    text = "\n".intercalate (Json.lines table.entries) ∧
    (table.artifacts.map Text.utf8).Pairwise (· < ·) ∧
    (∀ content : String, Json.IsString (Json.string content) content ∧
      ((∀ c ∈ content.toList, c ≠ '"' ∧ c ≠ '\\' ∧ 0x20 ≤ c.toNat) →
        Json.string content = '"' :: (content.toList ++ ['"']))) ∧
    text.toList.count '\n' = (if table.isEmpty then 0 else table.size + 1) ∧
    (∀ c ∈ text.toList, c.toNat < 0x20 → c = '\n') ∧
    ∀ sink : Sink,
      (table.writeJson sink).1.stored = sink.stored ++ sink.kept bytes ∧
      (table.writeJson sink).1.flushes = sink.flushes + (if sink.Fits bytes then 1 else 0) ∧
      (table.writeJson sink).2 =
        (if sink.Fits bytes then sink.flush.2.map .io
        else some (.json sink.writeError.message)) ∧
      ∀ pieces, String.join pieces = text →
        (writePieces pieces sink).1.stored = (table.writeJson sink).1.stored ∧
        (writePieces pieces sink).1.flushes = (table.writeJson sink).1.flushes ∧
        (writePieces pieces sink).2 = (table.writeJson sink).2 := by
  intro text bytes
  refine ⟨table.toJson_eq_intercalate, table.pairwise_utf8,
    fun content => ⟨Json.isString_string content, Json.string_of_plain⟩,
    table.count_newline_toJson, fun c => eq_newline_of_mem_toJson, fun sink => ?_⟩
  have whole : String.join [text] = text := by simp
  obtain ⟨stored, flushes, answer⟩ := writePieces_spec [text] sink
  rw [whole] at stored flushes answer
  rw [writeJson_eq_writePieces]
  refine ⟨stored, flushes, answer, fun pieces joined => ?_⟩
  obtain ⟨stored', flushes', answer'⟩ := writePieces_spec pieces sink
  rw [joined] at stored' flushes' answer'
  exact ⟨stored'.trans stored.symm, flushes'.trans flushes.symm, answer'.trans answer.symm⟩

/-- Room that ends inside a letter of two bytes, and a sink that takes all but fails to flush. -/
theorem toJson_shape_cut_letter :
    let table : Table := { entries := [("a\n-x", "g\"1"), ("é-x", "\x01")] }
    let bytes := Text.utf8 table.toJson
    let small : Sink := { room := some 25 }
    let failing : Sink := { flushError := some (.stream .brokenPipe "gone") }
    let pieces := ["\x7b\n  \"a\\n-x\": \"g\\\"1\",\n  ", "\"é-x\": \"\\u0001\"\n\x7d"]
    (table.artifacts.map Text.utf8).Pairwise (· < ·) ∧
      table.toJson.toList.count '\n' = 3 ∧ bytes[24]? = some 0xC3 ∧
      (table.writeJson small).1.stored = bytes.take 25 ∧
      (table.writeJson small).1.flushes = 0 ∧
      (table.writeJson small).2 = some (.json "disk full") ∧
      (table.writeJson failing).1.stored = bytes ∧ (table.writeJson failing).1.flushes = 1 ∧
      (table.writeJson failing).2 = some (.io (.stream .brokenPipe "gone")) ∧
      String.join pieces = table.toJson ∧ (writePieces pieces small).1.stored = bytes.take 25 := by
  intro table bytes small failing pieces
  obtain ⟨-, increasing, -, count, -, written⟩ := toJson_shape table
  have full : ¬small.Fits bytes := by decide +kernel
  have fits : failing.Fits bytes := by decide +kernel
  obtain ⟨stored, flushes, answer, anyPieces⟩ := written small
  obtain ⟨stored', flushes', answer', -⟩ := written failing
  rw [if_neg full] at flushes answer
  rw [if_pos fits] at flushes' answer'
  have joined : String.join pieces = table.toJson := by decide +kernel
  exact ⟨increasing, count, by decide +kernel, stored, flushes, answer, stored',
    flushes', answer', joined, (anyPieces pieces joined).1.trans stored⟩

end Table

end ArtifactGroups.Alias
