import ArtifactGroups.Proofs.Alias.Json.Grammar
import ArtifactGroups.Proofs.Alias.Table
import ArtifactGroups.Proofs.Sink

/-! What is written as JSON is a text of an object with the entries as its members, whatever
characters occur in them, and reads back as the same table. Any other text with given members
reads as the table in which the last member of each key stays. -/
namespace ArtifactGroups.Alias

namespace Json

theorem escape_cases (c : Char) :
    (∃ letter, (letter, c) ∈ shortEscapes ∧ escape c = ['\\', letter]) ∨
    (c.toNat < 0x20 ∧ escape c = ['\\', 'u', '0', '0'] ++ controlCode c) ∨
    (c ≠ '"' ∧ c ≠ '\\' ∧ 0x20 ≤ c.toNat ∧ escape c = [c]) := by
  unfold escape
  iterate 7
    split
    next special =>
      subst special
      exact .inl ⟨_, by decide, rfl⟩
  next noQuote noBackslash _ _ _ _ _ =>
    split
    next control => exact .inr (.inl ⟨control, rfl⟩)
    next visible => exact .inr (.inr ⟨noQuote, noBackslash, Nat.not_lt.1 visible, rfl⟩)

theorem isUnit_controlCode {c : Char} (control : c.toNat < 0x20) :
    IsUnit (['0', '0'] ++ controlCode c) c.toNat := by
  have digit : ∀ n < 16, (Nat.digitChar n, n) ∈ hexDigits := by decide
  have zero : ('0', 0) ∈ hexDigits := digit 0 (by decide)
  have number := IsUnit.digits zero zero (digit (c.toNat / 16) (by omega))
    (digit (c.toNat % 16) (by omega))
  have value : ((0 * 16 + 0) * 16 + c.toNat / 16) * 16 + c.toNat % 16 = c.toNat := by omega
  rw [value] at number
  exact number

theorem spells_escape (c : Char) {written text : List Char} (rest : Spells written text) :
    Spells (escape c ++ written) (c :: text) := by
  rcases escape_cases c with ⟨letter, member, form⟩ | ⟨control, form⟩ |
    ⟨noQuote, noBackslash, visible, form⟩
  · rw [form]
    exact .short member rest
  · have spelled := Spells.unit (isUnit_controlCode control) (.inl (by omega)) rest
    rw [Char.ofNat_toNat] at spelled
    rw [form]
    exact spelled
  · rw [form]
    exact .plain noQuote noBackslash visible rest

theorem isString_string (text : String) : IsString (string text) text := by
  have spelled (chars : List Char) : Spells (chars.flatMap escape) chars := by
    induction chars with
    | nil => exact .nil
    | cons c rest ih => exact spells_escape c ih
  exact .quoted (spelled text.toList)

theorem isMember_member (entry : String × String) {after : List Char} (blank : Blank after) :
    IsMember ('\n' :: (member entry ++ after)) entry := by
  have indent : Blank ['\n', ' ', ' '] := by decide
  have none : Blank [] := by decide
  have space : Blank [' '] := by decide
  have parts := IsMember.pair indent (isString_string entry.1) none space
    (isString_string entry.2) blank
  simpa [member] using parts

/-- The commas between the lines are those between the members. -/
theorem isMembers_lines (entry : String × String) (entries : List (String × String)) :
    IsMembers ('\n' :: ([',', '\n'].intercalate ((entry :: entries).map member) ++ ['\n']))
      (entry :: entries) := by
  induction entries generalizing entry with
  | nil =>
    apply IsMembers.one
    have line : Blank ['\n'] := by decide
    simpa using isMember_member entry line
  | cons next rest ih =>
    have first : IsMember ('\n' :: (member entry ++ [])) entry :=
      isMember_member entry (by decide)
    simpa using IsMembers.more first (ih next)

theorem isObject_object (entries : List (String × String)) : IsObject (object entries) entries := by
  have none : Blank [] := by decide
  cases entries with
  | nil => exact .empty none none none
  | cons entry rest => simpa [object] using IsObject.filled none (isMembers_lines entry rest) none

end Json

namespace Table

theorem ofJson?_of_isObject {text : String} {members : List (String × String)}
    (isObject : Json.IsObject text.toList members) :
    ofJson? (Text.utf8 text) = some (ofMembers members) := by
  simp [ofJson?, Json.membersOfBytes?, Json.members?_of_isObject isObject]

/-- A text that is too long is a failure of the JSON writer, and then there is no flush. -/
theorem writeJson_eq (table : Table) (sink : Sink) :
    table.writeJson sink =
      if sink.Fits (Text.utf8 table.toJson) then
        let written := (sink.write (Text.utf8 table.toJson)).1
        (written.flush.1, written.flush.2.map .io)
      else ((sink.write (Text.utf8 table.toJson)).1, some (.json sink.writeError.message)) := by
  unfold writeJson Sink.writeText
  rcases sink.write_cases (Text.utf8 table.toJson) with
    ⟨after, written, fits, -⟩ | ⟨after, written, full, -⟩
  · rw [if_pos fits, written]
  · rw [if_neg full, written]

theorem writeJson_of_reliable (table : Table) {sink : Sink} (reliable : sink.Reliable) :
    (table.writeJson sink).2 = none ∧
      (table.writeJson sink).1.stored = sink.stored ++ Text.utf8 table.toJson := by
  have fits := reliable.fits (Text.utf8 table.toJson)
  have still := reliable.write (Text.utf8 table.toJson)
  have stored := (sink.grown_write (Text.utf8 table.toJson)).stored_eq
  simp only [writeJson_eq, fits, if_true, Sink.stored_flush, stored, Sink.kept_of_fits,
    still.flush_none, Option.map_none, and_self]

theorem isObject_toJson (table : Table) : Json.IsObject table.toJson.toList table.entries := by
  simpa [toJson] using Json.isObject_object table.entries

/-- A table that is written and read back is the same. In general the text of an object with any
members, in their order, is read as the table that has the last group of each artifact;
and a sink that never fails gets exactly the bytes of the text. -/
theorem ofJson?_toJson (table : Table) :
    ofJson? (Text.utf8 table.toJson) = some table ∧
    (∀ members : List (String × String),
      Json.IsObject (Json.object members) members ∧
      ∀ text : String, Json.IsObject text.toList members →
        ∃ read : Table, ofJson? (Text.utf8 text) = some read ∧
          ∀ artifact, read.get? artifact = members.reverse.lookup artifact) ∧
    ∀ sink : Sink, sink.Reliable →
      (table.writeJson sink).2 = none ∧
      (table.writeJson sink).1.stored = sink.stored ++ Text.utf8 table.toJson := by
  refine ⟨?_, fun members => ⟨Json.isObject_object members, fun text isObject => ?_⟩,
    fun sink reliable => table.writeJson_of_reliable reliable⟩
  · rw [ofJson?_of_isObject table.isObject_toJson, table.ofMembers_entries]
  · exact ⟨_, ofJson?_of_isObject isObject, get?_ofMembers members⟩

/-- An empty key and characters of every written form, and a text with other spellings that gives
the same key twice. -/
theorem ofJson?_toJson_escapes :
    let table : Table := { entries := [("", "a\"b\\c"), ("x\n\x01", "😀")] }
    let members := [("k", "old"), ("k", "😀")]
    let text := "\x7b\"k\":\"old\",\"\\u006b\":\"\\uD83D\\uDE00\"\x7d"
    ofJson? (Text.utf8 table.toJson) = some table ∧
      Json.IsObject text.toList members ∧
      (∃ read : Table, ofJson? (Text.utf8 text) = some read ∧ read.get? "k" = some "😀") ∧
      ({} : Sink).Reliable ∧ (table.writeJson {}).1.stored = Text.utf8 table.toJson := by
  intro table members text
  obtain ⟨same, others, written⟩ := ofJson?_toJson table
  have none : Json.Blank [] := by decide
  have code : Json.IsString ('"' :: ("\\u006b".toList ++ ['"'])) "k" := by
    have number : Json.IsUnit ['0', '0', '6', 'b'] 0x6b :=
      @Json.IsUnit.digits _ _ _ _ 0 0 6 11 (by decide) (by decide) (by decide) (by decide)
    exact .quoted (.unit number (by decide) .nil)
  have halves : Json.IsString ('"' :: ("\\uD83D\\uDE00".toList ++ ['"'])) "😀" := by
    have high : Json.IsUnit ['D', '8', '3', 'D'] 0xD83D :=
      @Json.IsUnit.digits _ _ _ _ 13 8 3 13 (by decide) (by decide) (by decide) (by decide)
    have low : Json.IsUnit ['D', 'E', '0', '0'] 0xDE00 :=
      @Json.IsUnit.digits _ _ _ _ 13 14 0 0 (by decide) (by decide) (by decide) (by decide)
    exact .quoted (.pair high low (by decide) (by decide) .nil)
  have first := Json.IsMember.pair none (Json.isString_string "k") none none
    (Json.isString_string "old") none
  have second := Json.IsMember.pair none code none none halves none
  have isObject : Json.IsObject text.toList members := by
    have parts := Json.IsObject.filled none (.more first (.one second)) none
    simpa [text, Json.string, Json.escape] using parts
  obtain ⟨read, isRead, found⟩ := (others members).2 text isObject
  have reliable : ({} : Sink).Reliable := ⟨rfl, rfl⟩
  exact ⟨same, isObject, ⟨read, isRead, found "k"⟩, reliable, (written {} reliable).2⟩

end Table

end ArtifactGroups.Alias
