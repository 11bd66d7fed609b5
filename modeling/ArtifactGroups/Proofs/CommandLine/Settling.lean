import ArtifactGroups.CommandLine.Parse
import ArtifactGroups.Proofs.CommandLine.Number

/-! What a parser keeps, whatever the arguments. Every number that it settles is positive. Values
are settled late, but settling first and then acting comes to the same as acting first, so between
complete arguments the delay can be left out of account. -/
namespace ArtifactGroups.CommandLine

variable {α β : Type}

theorem bind_eq_ok_iff {first : Except Stop α} {next : α → Except Stop β} {answer : β} :
    (first >>= next) = .ok answer ↔ ∃ middle, first = .ok middle ∧ next middle = .ok answer := by
  cases first with
  | error stop => simp [bind, Except.bind]
  | ok middle => simp [bind, Except.bind]

theorem bind_congr_of_ok {first : Except Stop α} {one two : α → Except Stop β}
    (same : ∀ middle, first = .ok middle → one middle = two middle) :
    (first >>= one) = first >>= two := by
  cases first with
  | error stop => rfl
  | ok middle => exact same middle rfl

/-- A number is positive and has at most 64 bits. -/
def Setting.Sound : Setting → Prop
  | .number n => 1 ≤ n ∧ n < UInt64.size
  | _ => True

namespace State

def Sound (state : State) : Prop := ∀ setting ∈ state.settings, setting.2.Sound

/-- Sound settings are sound in what results, too, if there is a result. -/
def Keeps (state : State) (result : Except Stop State) : Prop :=
  state.Sound → ∀ next, result = .ok next → next.Sound

variable {command : Command} {state next : State} {pending : Pending}

theorem Sound.add (sound : state.Sound) (name : String) {setting : Setting} (own : setting.Sound) :
    (state.add name setting).Sound := by
  intro other member
  rcases List.mem_append.1 member with before | last
  · exact sound other before
  · rw [List.mem_singleton.1 last]
    exact own

theorem readValue_path_eq_ok_iff {name shown path : String} {value : Option String}
    {setting : Setting} :
    readValue ⟨name, shown, .path, value⟩ path = .ok setting ↔
      path ≠ "" ∧ setting = .text path := by
  unfold readValue
  by_cases empty : path = ""
  · simp [empty, fail]
  · simp only [String.isEmpty_iff, empty, if_false, Except.ok.injEq, ne_eq, not_false_eq_true,
      true_and]
    exact eq_comm

theorem readValue_count_eq_ok_iff {name shown text : String} {value : Option String}
    {setting : Setting} :
    readValue ⟨name, shown, .count, value⟩ text = .ok setting ↔
      ∃ n, positive text = .ok n ∧ setting = .number n := by
  unfold readValue
  cases positive text with
  | error fault => simp [fail]
  | ok n => simp [eq_comm]

theorem readValue_sound {value : String} {setting : Setting}
    (read : readValue pending value = .ok setting) : setting.Sound := by
  obtain ⟨name, shown, form, kept⟩ := pending
  cases form with
  | path =>
    obtain ⟨-, rfl⟩ := readValue_path_eq_ok_iff.1 read
    trivial
  | count =>
    obtain ⟨n, number, rfl⟩ := readValue_count_eq_ok_iff.1 read
    exact (positive_eq_ok_iff.1 number).2

theorem settleValue_eq_ok_iff :
    state.settleValue pending = .ok next ↔
      ∃ value setting, pending.value = some value ∧ state.settings.has pending.name = false ∧
        readValue pending value = .ok setting ∧ next = state.add pending.name setting := by
  unfold settleValue
  cases pending.value with
  | none => simp [fail]
  | some value =>
    cases state.settings.has pending.name with
    | true => simp [fail, bind, Except.bind]
    | false =>
      simp only [Bool.false_eq_true, if_false]
      rw [bind_eq_ok_iff]
      simp [eq_comm]

theorem settle_of_none (none : state.pending = none) : state.settle = .ok state := by
  rw [settle, none]

theorem settle_of_some (some : state.pending = some pending) :
    state.settle = { state with pending := none }.settleValue pending := by
  rw [settle, some]

/-- Nothing is pending any more, and nothing but the settings has changed besides. -/
structure SettlesTo (state next : State) : Prop where
  calm : next.pending = none
  operandSeen : next.operandSeen = state.operandSeen
  trailing : next.trailing = state.trailing

theorem SettlesTo.trans {middle : State} (first : SettlesTo state middle)
    (second : SettlesTo middle next) : SettlesTo state next :=
  ⟨second.calm, second.operandSeen.trans first.operandSeen,
    second.trailing.trans first.trailing⟩

theorem settlesTo_add (calm : state.pending = none) (name : String) (setting : Setting) :
    SettlesTo state (state.add name setting) :=
  ⟨calm, rfl, rfl⟩

theorem settle_settlesTo (settled : state.settle = .ok next) : SettlesTo state next := by
  cases waiting : state.pending with
  | none =>
    rw [settle_of_none waiting] at settled
    obtain rfl := Except.ok.inj settled
    exact ⟨waiting, rfl, rfl⟩
  | some pending =>
    rw [settle_of_some waiting, settleValue_eq_ok_iff] at settled
    obtain ⟨value, setting, -, -, -, rfl⟩ := settled
    exact ⟨rfl, rfl, rfl⟩

theorem settle_settle (state : State) : (state.settle >>= settle) = state.settle := by
  cases settled : state.settle with
  | error stop => rfl
  | ok next => exact settle_of_none (settle_settlesTo settled).calm

section Keeping

theorem Keeps.bind {first : Except Stop State} {second : State → Except Stop State}
    (one : Keeps state first) (two : ∀ middle, Keeps middle (second middle)) :
    Keeps state (first >>= second) := by
  intro sound next done
  obtain ⟨middle, early, late⟩ := bind_eq_ok_iff.1 done
  exact two middle (one sound middle early) next late

theorem keeps_error (stop : Stop) : Keeps state (.error stop) := by
  intro sound next done
  contradiction

theorem keeps_ok (same : next.settings = state.settings) : Keeps state (.ok next) := by
  intro sound other done
  obtain rfl := Except.ok.inj done
  intro setting member
  exact sound setting (same ▸ member)

theorem keeps_add (name : String) {setting : Setting} (own : setting.Sound) :
    Keeps state (.ok (state.add name setting)) := by
  intro sound next done
  exact Except.ok.inj done ▸ sound.add name own

theorem keeps_settleValue (state : State) (pending : Pending) :
    Keeps state (state.settleValue pending) := by
  intro sound next done
  obtain ⟨value, setting, -, -, read, rfl⟩ := settleValue_eq_ok_iff.1 done
  exact sound.add pending.name (readValue_sound read)

theorem keeps_settle (state : State) : Keeps state state.settle := by
  unfold settle
  split
  next => exact keeps_ok rfl
  next pending _ => exact keeps_settleValue { state with pending := none } pending

theorem keeps_act (state : State) (flag : Flag) : Keeps state (state.act flag) := by
  refine (keeps_settle state).bind fun settled => ?_
  split
  next => exact keeps_error _
  next => exact keeps_error _
  next => exact keeps_add flag.long trivial
  next =>
    split
    next => exact keeps_error _
    next => exact keeps_add flag.long trivial

theorem keeps_expect (state : State) (flag : Flag) (form : ValueForm)
    (attached : Option String) : Keeps state (state.expect flag form attached) := by
  refine (keeps_settle state).bind fun settled => ?_
  cases attached with
  | none => exact keeps_ok rfl
  | some value => exact keeps_settleValue settled _

theorem keeps_operand (state : State) (command : Command) (value : String) :
    Keeps state (state.operand command value) := by
  unfold operand
  split
  next => exact keeps_error _
  next => exact (keeps_settle state).bind fun settled => keeps_ok rfl

theorem keeps_long (state : State) (command : Command) (argument : List Char) :
    Keeps state (state.long command argument) := by
  unfold long
  dsimp only
  split
  next => exact keeps_error _
  next flag known =>
    split
    next => exact keeps_expect state flag _ _
    next => exact keeps_error _
    next => exact keeps_act state flag

theorem keeps_letters (state : State) (command : Command) (text : List Char) :
    Keeps state (state.letters command text) := by
  induction text generalizing state with
  | nil => exact keeps_ok rfl
  | cons letter rest ih =>
    unfold letters
    split
    next => exact keeps_error _
    next flag known =>
      split
      next => exact keeps_expect state flag _ _
      next => exact keeps_expect state flag _ _
      next => exact keeps_expect state flag _ _
      next => exact (keeps_act state flag).bind ih

theorem keeps_plain (state : State) (command : Command) (argument : String) :
    Keeps state (state.plain command argument) := by
  unfold plain
  split
  next => exact keeps_ok rfl
  next => exact keeps_operand state command argument

theorem keeps_step (command : Command) (state : State) (argument : String) :
    Keeps state (step command state argument) := by
  unfold step
  split
  next => exact keeps_operand state command argument
  next =>
    split
    next => exact keeps_ok rfl
    next => exact keeps_long state command _
    next => exact keeps_letters state command _
    next => exact keeps_plain state command argument

theorem keeps_steps (command : Command) (state : State) (arguments : List String) :
    Keeps state (arguments.foldlM (step command) state) := by
  induction arguments generalizing state with
  | nil => exact keeps_ok rfl
  | cons argument rest ih => exact (keeps_step command state argument).bind ih

end Keeping

end State

theorem Command.sound_of_parse {command : Command} {arguments : List String} {settings : Settings}
    (parsed : command.parse arguments = .ok settings) :
    ∀ setting ∈ settings, setting.2.Sound := by
  obtain ⟨state, steps, finished⟩ := bind_eq_ok_iff.1 parsed
  have start : ({} : State).Sound := fun setting member => absurd member List.not_mem_nil
  have sound := State.keeps_steps command {} arguments start state steps
  obtain ⟨settled, settling, checked⟩ := bind_eq_ok_iff.1 finished
  have kept := State.keeps_settle state sound settled settling
  split at checked
  next => contradiction
  next => exact Except.ok.inj checked ▸ kept

namespace State

variable {state next : State} {pending : Pending}

section Late

theorem settle_bind_settle (state : State) (act : State → Except Stop State) :
    (state.settle >>= fun settled => settled.settle >>= act) = state.settle >>= act := by
  rw [← bind_assoc, settle_settle]

variable (flag : Flag) (form : ValueForm) (value : String)

theorem act_late (state : State) : state.act flag = state.settle >>= (·.act flag) :=
  (settle_bind_settle state _).symm

theorem expect_late (state : State) : state.expect flag form (some value) =
    state.settle >>= (·.expect flag form (some value)) :=
  (settle_bind_settle state _).symm

theorem act_frame (state next : State) (calm : state.pending = none)
    (done : state.act flag = .ok next) : SettlesTo state next := by
  rw [act, settle_of_none calm] at done
  simp only [bind, Except.bind] at done
  split at done
  next => contradiction
  next => contradiction
  next => exact Except.ok.inj done ▸ settlesTo_add calm _ _
  next =>
    split at done
    next => contradiction
    next => exact Except.ok.inj done ▸ settlesTo_add calm _ _

theorem expect_of_calm (state : State) (calm : state.pending = none) :
    state.expect flag form (some value) =
      state.settleValue ⟨flag.long, flag.shown, form, some value⟩ := by
  rw [expect, settle_of_none calm]
  rfl

theorem expect_frame (state next : State) (calm : state.pending = none)
    (done : state.expect flag form (some value) = .ok next) : SettlesTo state next := by
  rw [expect_of_calm flag form value state calm] at done
  obtain ⟨text, setting, -, -, -, rfl⟩ := settleValue_eq_ok_iff.1 done
  exact settlesTo_add calm _ _

end Late

end State

end ArtifactGroups.CommandLine
