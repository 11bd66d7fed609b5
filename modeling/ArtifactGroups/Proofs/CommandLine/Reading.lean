import ArtifactGroups.Proofs.CommandLine.Settling

/-! How single arguments are read while flags are still read. What an argument is shows in its
first characters: a name, letters, or a text that is a value or the operand. -/
namespace ArtifactGroups.CommandLine

/-- A text that cannot be taken for a flag. -/
def Bare (text : String) : Prop := text.toList.head? ≠ some '-'

instance (text : String) : Decidable (Bare text) :=
  inferInstanceAs (Decidable (text.toList.head? ≠ some '-'))

variable {command : Command} {state : State} {argument : String}

theorem Command.long_of_byLong? {name : String} {flag : Flag}
    (known : command.byLong? name = some flag) : flag.long = name := by
  have found := List.find?_some known
  exact eq_of_beq found

theorem State.step_word {rest : List Char} (flags : state.trailing = false)
    (text : argument.toList = '-' :: '-' :: rest) (nonempty : rest ≠ []) :
    State.step command state argument = state.long command rest := by
  obtain ⟨first, others, rfl⟩ := List.exists_cons_of_ne_nil nonempty
  rw [State.step, flags, text]
  rfl

theorem State.step_letters {letter : Char} {rest : List Char} (flags : state.trailing = false)
    (text : argument.toList = '-' :: letter :: rest) (other : letter ≠ '-') :
    State.step command state argument = state.letters command (letter :: rest) := by
  rw [State.step, flags, text]
  simp [other]

theorem State.step_bare (flags : state.trailing = false) (bare : Bare argument) :
    State.step command state argument = state.plain command argument := by
  rw [State.step, flags]
  cases text : argument.toList with
  | nil => rfl
  | cons first rest =>
    have other : first ≠ '-' := by
      rintro rfl
      exact bare (by rw [text]; rfl)
    simp [other]

/-- What comes of a flag, with or without a value attached to it. -/
def State.obey (state : State) (flag : Flag) (value : Option String) : Except Stop State :=
  match flag.action, value with
  | .value _ form _, _ => state.expect flag form value
  | _, some value => fail (.unexpectedValue value flag.shown)
  | _, none => state.act flag

/-- Two hyphens and a name, with or without a value behind an equals sign. -/
theorem State.step_named {name : String} {flag : Flag} (value : Option String)
    (flags : state.trailing = false)
    (text : argument.toList =
      '-' :: '-' :: (name.toList ++ value.elim [] fun text => '=' :: text.toList))
    (nonempty : name.toList ≠ []) (plain : '=' ∉ name.toList)
    (known : command.byLong? name = some flag) :
    State.step command state argument = state.obey flag value := by
  have passed : ∀ c ∈ name.toList, (c != '=') = true :=
    fun c member => bne_iff_ne.2 fun same => plain (same ▸ member)
  rw [State.step_word flags text (by simp [nonempty])]
  simp only [State.long, List.takeWhile_append_of_pos passed, List.dropWhile_append_of_pos passed]
  cases value with
  | none =>
    simp [known]
    rfl
  | some attached =>
    simp [known]
    rfl

theorem State.plain_of_valued
    (valued : ∀ pending, state.pending = some pending → pending.value ≠ none) (command : Command)
    (argument : String) :
    state.plain command argument = state.operand command argument := by
  unfold State.plain
  split
  next waiting => exact absurd rfl (valued _ waiting)
  next => rfl

theorem State.step_value (flag : Flag) (form : ValueForm) (flags : state.trailing = false)
    (bare : Bare argument) :
    State.step command { state with pending := some ⟨flag.long, flag.shown, form, none⟩ }
        argument =
      .ok { state with pending := some ⟨flag.long, flag.shown, form, some argument⟩ } :=
  State.step_bare flags bare

theorem State.operand_of_fresh (fresh : state.operandSeen = false) (command : Command)
    (value : String) :
    state.operand command value = state.settle >>= fun settled => .ok { settled with
        operandSeen := true
        pending := some ⟨command.operand.name, command.operand.shown, .path, some value⟩ } := by
  rw [State.operand, fresh]
  rfl

end ArtifactGroups.CommandLine
