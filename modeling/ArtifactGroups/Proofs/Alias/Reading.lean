import ArtifactGroups.Proofs.Alias.Input
import ArtifactGroups.Proofs.Alias.Ledger

/-! A stream is read like its lines one by one. Where it ends in a failure, or in a piece that is
no text, the lines before that piece count and nothing else does. How the lines end makes no
difference, since a return at the end of a line is a blank. -/
namespace ArtifactGroups.Alias.Ledger

theorem addLine_append_return (ledger : Ledger) (line : String) :
    ledger.addLine (line ++ '\r'.toString) = ledger.addLine line := by
  simp only [addLine, Verdict.ofLine, Text.trim_append_blank (by decide : Text.isBlank '\r' = true)]

/-- The ledger after some pieces of a stream, up to the first that is no text. -/
def takePieces (ledger : Ledger) (pieces : List Bytes) : Ledger × Option IoError :=
  (ledger.addLines (Input.decode pieces).1, (Input.decode pieces).2)

theorem takePieces_cons (ledger : Ledger) (piece : Bytes) (rest : List Bytes) :
    ledger.takePieces (piece :: rest) =
      match Text.ofUtf8? piece with
      | none => (ledger, some .notUtf8)
      | some text => (ledger.addLine text).takePieces rest := by
  cases read : Text.ofUtf8? piece with
  | none => simp [takePieces, Input.decode, read, addLines]
  | some text => simp [takePieces, Input.decode, read, addLines]

theorem takePieces_append (ledger : Ledger) (pieces more : List Bytes) :
    ledger.takePieces (pieces ++ more) =
      match ledger.takePieces pieces with
      | (taken, none) => taken.takePieces more
      | (taken, some fault) => (taken, some fault) := by
  induction pieces generalizing ledger with
  | nil => rfl
  | cons piece rest ih =>
    rw [List.cons_append, takePieces_cons, takePieces_cons]
    cases Text.ofUtf8? piece with
    | none => rfl
    | some text => exact ih (ledger.addLine text)

theorem takePieces_withoutReturn (ledger : Ledger) (pieces : List Bytes) :
    ledger.takePieces (pieces.map Input.withoutReturn) = ledger.takePieces pieces := by
  induction pieces generalizing ledger with
  | nil => rfl
  | cons piece rest ih =>
    rw [List.map_cons, takePieces_cons, takePieces_cons]
    rcases Input.withoutReturn_cases piece with same | ended
    · rw [same]
      cases Text.ofUtf8? piece with
      | none => rfl
      | some text => exact ih (ledger.addLine text)
    · have read := Input.ofUtf8?_append_return (Input.withoutReturn piece)
      rw [← ended] at read
      rw [read]
      cases Text.ofUtf8? (Input.withoutReturn piece) with
      | none => rfl
      | some text =>
        simp only [Option.map_some, addLine_append_return]
        exact ih (ledger.addLine text)

theorem takePieces_withReturns (ledger : Ledger) (pieces : List Bytes) :
    ledger.takePieces (pieces.map (· ++ [Input.carriageReturn])) = ledger.takePieces pieces := by
  rw [← takePieces_withoutReturn, List.map_map]
  simp only [Function.comp_def, Input.withoutReturn_append, List.map_id']

/-- Just the lines in front of the first piece that is no text are taken. -/
theorem takePieces_spec (ledger : Ledger) (pieces : List Bytes) :
    ∃ texts : List String,
      texts.map Text.utf8 = pieces.takeWhile (fun piece => (Text.ofUtf8? piece).isSome) ∧
      ledger.takePieces pieces = (ledger.addLines texts,
        if ∀ piece ∈ pieces, (Text.ofUtf8? piece).isSome then none else some .notUtf8) := by
  refine ⟨(Input.decode pieces).1, ?_, Prod.ext rfl (Input.decode_failure pieces)⟩
  induction pieces with
  | nil => rfl
  | cons piece rest ih =>
    cases read : Text.ofUtf8? piece with
    | none => simp [Input.decode, read]
    | some text =>
      have bytes := Text.ofUtf8?_eq_some_iff.1 read
      simp [Input.decode, read, ih, ← bytes]

theorem read_eq (ledger : Ledger) (input : Input) :
    ledger.read input =
      ((ledger.takePieces input.offered).1,
        ((ledger.takePieces input.offered).2.or input.failure).map .io) := by
  obtain ⟨bytes, failure⟩ := input
  obtain ⟨lines, rest, lined⟩ := Input.exists_lined bytes
  have stripped := ledger.takePieces_withoutReturn lines
  rw [lined.offered_eq]
  unfold read Input.lines
  rw [lined.cut_eq]
  cases failure with
  | some fault =>
    simp only [Option.isSome_some, true_or, if_true]
    rw [← stripped]
    simp only [takePieces]
    cases (Input.decode (lines.map Input.withoutReturn)).2 <;> rfl
  | none =>
    have extended : ledger.takePieces (lines.map Input.withoutReturn ++ [rest]) =
        ledger.takePieces (lines ++ [rest]) := by
      rw [takePieces_append, takePieces_append, stripped]
    simp only [Option.isSome_none, Bool.false_eq_true, false_or, List.isEmpty_iff, Option.or_none]
    split
    next => rw [← stripped, takePieces]
    next => rw [← extended, takePieces]

theorem read_text (ledger : Ledger) (text : String) :
    ledger.read { bytes := Text.utf8 text } = (ledger.addLines (Text.lines text), none) := by
  rw [read_eq, Input.offered_utf8, takePieces, Input.decode_utf8]
  rfl

theorem read_fault (ledger : Ledger) (input : Input)
    (fails : input.failure ≠ none ∨ ∃ piece ∈ input.offered, Text.ofUtf8? piece = none) :
    ∃ (texts : List String) (fault : IoError),
      ledger.read input = (ledger.addLines texts, some (.io fault)) ∧
      texts.map Text.utf8 = input.offered.takeWhile (fun piece => (Text.ofUtf8? piece).isSome) ∧
      some fault = if ∃ piece ∈ input.offered, Text.ofUtf8? piece = none then some .notUtf8
        else input.failure := by
  obtain ⟨texts, before, taken⟩ := ledger.takePieces_spec input.offered
  rw [read_eq, taken]
  by_cases broken : ∃ piece ∈ input.offered, Text.ofUtf8? piece = none
  · have notAll : ¬∀ piece ∈ input.offered, (Text.ofUtf8? piece).isSome := by
      simpa [Option.isSome_iff_ne_none] using broken
    rw [if_neg notAll, if_pos broken]
    exact ⟨texts, .notUtf8, rfl, before, rfl⟩
  · have all : ∀ piece ∈ input.offered, (Text.ofUtf8? piece).isSome := by
      simpa [Option.isSome_iff_ne_none] using broken
    obtain ⟨fault, failure⟩ := Option.ne_none_iff_exists'.1 (fails.resolve_right broken)
    rw [if_pos all, if_neg broken, failure]
    exact ⟨texts, fault, rfl, before, rfl⟩

theorem read_withReturns (ledger : Ledger) (bytes : Bytes) (failure : Option IoError) :
    ledger.read { bytes := Input.withReturns bytes, failure } =
      ledger.read { bytes, failure } := by
  obtain ⟨lines, rest, lined⟩ := Input.exists_lined bytes
  rw [read_eq, read_eq, lined.offered_eq, lined.withReturns.offered_eq]
  split
  next => rw [takePieces_withReturns]
  next => rw [takePieces_append, takePieces_append, takePieces_withReturns]

theorem read_closed (ledger : Ledger) {bytes : Bytes} (nonempty : bytes ≠ [])
    (unfinished : bytes.getLast? ≠ some Input.newline) :
    ledger.read { bytes := bytes ++ [Input.newline] } = ledger.read { bytes } := by
  obtain ⟨lines, rest, lined⟩ := Input.exists_lined bytes
  have more : rest ≠ [] := fun nothing =>
    (lined.rest_eq_nil_iff.1 nothing).elim nonempty unfinished
  rw [read_eq, read_eq, lined.offered_eq, lined.closed.offered_eq]
  simp [more]

theorem read_append (ledger : Ledger) {bytes : Bytes}
    (whole : bytes = [] ∨ bytes.getLast? = some Input.newline)
    (clean : (ledger.read { bytes }).2 = none) (more : Bytes) (failure : Option IoError) :
    ledger.read { bytes := bytes ++ more, failure } =
      (ledger.read { bytes }).1.read { bytes := more, failure } := by
  obtain ⟨lines, rest, lined⟩ := Input.exists_lined bytes
  obtain rfl := lined.rest_eq_nil_iff.2 whole
  obtain ⟨others, last, further⟩ := Input.exists_lined more
  have offered : ({ bytes := bytes ++ more, failure } : Input).offered =
      lines ++ ({ bytes := more, failure } : Input).offered := by
    rw [(lined.append further).offered_eq, further.offered_eq]
    split
    next => rfl
    next => rw [List.append_assoc]
  have first : ledger.read { bytes } =
      ((ledger.takePieces lines).1, (ledger.takePieces lines).2.map .io) := by
    rw [read_eq, lined.offered_eq, if_pos (.inr rfl), Option.or_none]
  rw [first, Option.map_eq_none_iff] at clean
  have taken : ledger.takePieces lines = ((ledger.takePieces lines).1, none) := Prod.ext rfl clean
  rw [first, read_eq, read_eq, offered, takePieces_append, taken]

/-- Reading a text is taking its lines. A stream that fails, or holds a piece that is no text,
gives a failure, and the ledger has taken just the lines in front of it. Returns at the ends of
lines do not matter, nor does a missing newline at the end, nor whether some whole lines come in
a stream of their own. -/
theorem read_line_by_line (ledger : Ledger) :
    (∀ bytes text, Text.ofUtf8? bytes = some text →
      ledger.read { bytes } = (ledger.addLines (Text.lines text), none)) ∧
    (∀ input : Input,
      (input.failure ≠ none ∨ ∃ piece ∈ input.offered, Text.ofUtf8? piece = none) →
      ∃ (texts : List String) (fault : IoError),
        ledger.read input = (ledger.addLines texts, some (.io fault)) ∧
        texts.map Text.utf8 =
          input.offered.takeWhile (fun piece => (Text.ofUtf8? piece).isSome) ∧
        some fault = if ∃ piece ∈ input.offered, Text.ofUtf8? piece = none then some .notUtf8
          else input.failure) ∧
    (∀ bytes failure,
      ledger.read { bytes := Input.withReturns bytes, failure } =
        ledger.read { bytes, failure }) ∧
    (∀ bytes, bytes ≠ [] → bytes.getLast? ≠ some Input.newline →
      ledger.read { bytes := bytes ++ [Input.newline] } = ledger.read { bytes }) ∧
    ∀ bytes, (bytes = [] ∨ bytes.getLast? = some Input.newline) →
      (ledger.read { bytes }).2 = none →
      ∀ more failure, ledger.read { bytes := bytes ++ more, failure } =
        (ledger.read { bytes }).1.read { bytes := more, failure } := by
  refine ⟨fun bytes text encoded => ?_, ledger.read_fault, ledger.read_withReturns,
    fun bytes => ledger.read_closed, fun bytes => ledger.read_append⟩
  rw [Text.ofUtf8?_eq_some_iff.1 encoded]
  exact ledger.read_text text

/-- A line that ends with a return, then a byte that is no text, then a failure. -/
theorem read_line_by_line_broken_stream :
    let line := Text.utf8 "org.a|x\r\n"
    let broken : Input := ⟨line ++ [0xFF, 0x0A], some (.stream .other "cut off")⟩
    Text.ofUtf8? line = some "org.a|x\r\n" ∧
      ({} : Ledger).read { bytes := line } = (({} : Ledger).addLine "org.a|x\r", none) ∧
      (∃ piece ∈ broken.offered, Text.ofUtf8? piece = none) ∧
      ({} : Ledger).read broken = (({} : Ledger).addLine "org.a|x\r", some (.io .notUtf8)) ∧
      line.getLast? = some Input.newline ∧ (({} : Ledger).read { bytes := line }).2 = none ∧
      ({} : Ledger).read { bytes := line ++ [0x79] } =
        (({} : Ledger).read { bytes := line }).1.read { bytes := [0x79] } ∧
      ([0x79] : Bytes) ≠ [] ∧ ([0x79] : Bytes).getLast? ≠ some Input.newline ∧
      ({} : Ledger).read { bytes := [0x79, 0x0A] } = ({} : Ledger).read { bytes := [0x79] } := by
  intro line broken
  obtain ⟨text, fault, -, finished, onward⟩ := read_line_by_line {}
  have valid : Text.ofUtf8? line = some "org.a|x\r\n" := Text.ofUtf8?_utf8 _
  have taken : ({} : Ledger).read { bytes := line } = (({} : Ledger).addLine "org.a|x\r", none) :=
    (text line _ valid).trans <| by
      have lines : Text.lines "org.a|x\r\n" = ["org.a|x\r"] := by decide +kernel
      rw [lines]
      rfl
  have bad : ∃ piece ∈ broken.offered, Text.ofUtf8? piece = none :=
    ⟨[0xFF], by decide +kernel, by decide +kernel⟩
  have ended : line.getLast? = some Input.newline := by decide +kernel
  have clean : (({} : Ledger).read { bytes := line }).2 = none := congrArg Prod.snd taken
  obtain ⟨texts, shown, result, before, which⟩ := fault broken (.inr bad)
  rw [if_pos bad] at which
  obtain rfl := Option.some.inj which
  have front : broken.offered.takeWhile (fun piece => (Text.ofUtf8? piece).isSome) =
      ["org.a|x\r"].map Text.utf8 := by decide +kernel
  obtain rfl : texts = ["org.a|x\r"] :=
    (List.map_inj_right fun _ _ => Text.utf8_injective).1 (before.trans front)
  exact ⟨valid, taken, bad, result, ended, clean, onward line (.inr ended) clean [0x79] none,
    by decide, by decide, finished [0x79] (by decide) (by decide)⟩

end ArtifactGroups.Alias.Ledger
