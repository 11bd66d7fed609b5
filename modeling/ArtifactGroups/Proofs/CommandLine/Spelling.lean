import ArtifactGroups.CommandLine.Tools
import ArtifactGroups.Proofs.CommandLine.Reading

/-! The command lines of `index-dump` as lists of parts, each of one argument or of a flag with its
value behind it. Reading all arguments comes to the same as performing part after part, each on
settled ground. -/
namespace ArtifactGroups.CommandLine

/-- The flags that have a letter. -/
inductive Mark where
  | quiet
  | verbose
  deriving DecidableEq, Repr

namespace Mark

def letter : Mark → Char
  | .quiet => 'q'
  | .verbose => 'v'

def name : Mark → String
  | .quiet => "quiet"
  | .verbose => "verbose"

def action : Mark → Action
  | .quiet => .switch
  | .verbose => .counter

end Mark

inductive Part where
  | index (path : String)
  /-- One hyphen and letters. -/
  | letters (first : Mark) (more : List Mark)
  /-- Two hyphens and a name. -/
  | word (mark : Mark)
  | noFirst
  /-- The interval, attached to its flag or in the argument behind it. -/
  | interval (text : String) (attached : Bool)
  deriving DecidableEq, Repr

namespace Part

def arguments : Part → List String
  | .index path => [path]
  | .letters first more => [String.ofList ('-' :: (first :: more).map Mark.letter)]
  | .word mark => ["--" ++ mark.name]
  | .noFirst => ["--no-debug-dump"]
  | .interval text true => ["--progress-every=" ++ text]
  | .interval text false => ["--progress-every", text]

def index? : Part → Option String
  | .index path => some path
  | _ => none

def interval? : Part → Option String
  | .interval text _ => some text
  | _ => none

def names : Part → List String
  | .index _ => [indexDump.operand.name]
  | .letters first more => (first :: more).map Mark.name
  | .word mark => [mark.name]
  | .noFirst => ["no-debug-dump"]
  | .interval _ _ => ["progress-every"]

end Part

def flagOf (name : String) : Flag := (indexDump.byLong? name).getD verboseFlag

theorem byShort?_letter (mark : Mark) :
    indexDump.byShort? mark.letter = some (flagOf mark.name) := by
  cases mark <;> decide +kernel

theorem byLong?_name (mark : Mark) : indexDump.byLong? mark.name = some (flagOf mark.name) := by
  cases mark <;> decide +kernel

theorem action_mark (mark : Mark) : (flagOf mark.name).action = mark.action := by
  cases mark <;> decide +kernel

theorem byLong?_noFirst :
    indexDump.byLong? "no-debug-dump" = some (flagOf "no-debug-dump") := by decide +kernel

theorem action_noFirst : (flagOf "no-debug-dump").action = .switch := by decide +kernel

theorem byLong?_interval :
    indexDump.byLong? "progress-every" = some (flagOf "progress-every") := by decide +kernel

theorem action_interval : (flagOf "progress-every").action =
    .value "N" .count (toString Scan.defaultInterval) := by decide +kernel

theorem letters_marks (marks : List Mark) (state : State) :
    state.letters indexDump (marks.map Mark.letter) =
      marks.foldlM (fun state mark => state.act (flagOf mark.name)) state := by
  induction marks generalizing state with
  | nil => rfl
  | cons mark rest ih =>
    rw [List.map_cons, State.letters, byShort?_letter, List.foldlM_cons]
    simp only [← ih, action_mark]
    cases mark with
    | quiet => rfl
    | verbose => rfl

/-- What a part does to a settled state. A value in an argument of its own is still to be read. -/
def Part.begin (state : State) : Part → Except Stop State
  | .index path => .ok { state with
      operandSeen := true
      pending := some ⟨indexDump.operand.name, indexDump.operand.shown, .path, some path⟩ }
  | .letters first more =>
    (first :: more).foldlM (fun state mark => state.act (flagOf mark.name)) state
  | .word mark => state.act (flagOf mark.name)
  | .noFirst => state.act (flagOf "no-debug-dump")
  | .interval text true => state.expect (flagOf "progress-every") .count (some text)
  | .interval text false =>
    let flag := flagOf "progress-every"
    .ok { state with pending := some ⟨flag.long, flag.shown, .count, some text⟩ }

/-- What a part does if it is settled right away. -/
def Part.perform (state : State) (part : Part) : Except Stop State :=
  part.begin state >>= State.settle

/-- The parser is between two parts: no flag waits for its value, and flags are still read. -/
structure Between (state : State) (indexSeen : Bool) : Prop where
  flags : state.trailing = false
  operandSeen : state.operandSeen = indexSeen
  valued : ∀ pending, state.pending = some pending → pending.value ≠ none

/-- The part can be told apart from others. -/
def Part.Distinct : Part → Prop
  | .index path => Bare path
  | .interval text false => Bare text
  | _ => True

variable {state next : State} {seen : Bool}

theorem step_mark (flags : state.trailing = false) (mark : Mark) :
    State.step indexDump state ("--" ++ mark.name) = state.act (flagOf mark.name) := by
  have nonempty : mark.name.toList ≠ [] := by cases mark <;> decide
  have plain : '=' ∉ mark.name.toList := by cases mark <;> decide
  rw [State.step_named none flags (by simp) nonempty plain (byLong?_name mark)]
  simp only [State.obey, action_mark]
  cases mark with
  | quiet => rfl
  | verbose => rfl

theorem step_noFirst (flags : state.trailing = false) :
    State.step indexDump state "--no-debug-dump" = state.act (flagOf "no-debug-dump") := by
  rw [State.step_named none flags (by decide) (by decide) (by decide) byLong?_noFirst]
  simp only [State.obey, action_noFirst]

theorem step_interval (flags : state.trailing = false) {argument : String} (value : Option String)
    (text : argument.toList =
      '-' :: '-' :: ("progress-every".toList ++ value.elim [] fun text => '=' :: text.toList)) :
    State.step indexDump state argument =
      state.expect (flagOf "progress-every") .count value := by
  rw [State.step_named value flags text (by decide) (by decide) byLong?_interval]
  simp only [State.obey, action_interval]

theorem step_letters (flags : state.trailing = false) (first : Mark) (more : List Mark) :
    State.step indexDump state (String.ofList ('-' :: (first :: more).map Mark.letter)) =
      (first :: more).foldlM (fun state mark => state.act (flagOf mark.name)) state := by
  have other : first.letter ≠ '-' := by cases first <;> decide
  have text : (String.ofList ('-' :: (first :: more).map Mark.letter)).toList =
      '-' :: first.letter :: more.map Mark.letter := String.toList_ofList
  rw [State.step_letters flags text other]
  exact letters_marks (first :: more) state

/-- The arguments of a part settle what is pending and begin the part. -/
theorem foldlM_step_part (between : Between state seen) {part : Part} (distinct : part.Distinct)
    (fresh : part.index? ≠ none → seen = false) :
    part.arguments.foldlM (State.step indexDump) state =
      state.settle >>= fun settled => part.begin settled := by
  have flags := between.flags
  cases part with
  | index path =>
    have unseen := between.operandSeen.trans (fresh (Option.some_ne_none path))
    rw [Part.arguments, List.foldlM_cons, State.step_bare flags distinct,
      State.plain_of_valued between.valued, State.operand_of_fresh unseen]
    exact bind_pure _
  | letters first more =>
    rw [Part.arguments, List.foldlM_cons, step_letters flags, List.foldlM_cons,
      State.act_late]
    exact (bind_pure _).trans (bind_assoc _ _ _)
  | word mark =>
    rw [Part.arguments, List.foldlM_cons, step_mark flags, State.act_late]
    exact bind_pure _
  | noFirst =>
    rw [Part.arguments, List.foldlM_cons, step_noFirst flags, State.act_late]
    exact bind_pure _
  | interval text attached =>
    cases attached with
    | true =>
      rw [Part.arguments, List.foldlM_cons, step_interval flags (some text) (by simp),
        State.expect_late]
      exact bind_pure _
    | false =>
      rw [Part.arguments, List.foldlM_cons, step_interval flags none (by decide)]
      cases settled : state.settle with
      | error stop =>
        rw [State.expect, settled]
        rfl
      | ok calm =>
        have onward : calm.trailing = false := (State.settle_settlesTo settled).trailing.trans flags
        rw [State.expect, settled]
        have taken : State.step indexDump _ text = _ :=
          State.step_value (flagOf "progress-every") .count onward distinct
        exact (bind_pure _).trans taken

theorem Between.of_settlesTo (between : Between state seen) (settles : state.SettlesTo next) :
    Between next seen := by
  refine ⟨settles.trailing.trans between.flags, settles.operandSeen.trans between.operandSeen, ?_⟩
  intro pending some
  rw [settles.calm] at some
  contradiction

theorem foldlM_act_frame (marks : List Mark) (calm : state.pending = none)
    (done : marks.foldlM (fun state mark => state.act (flagOf mark.name)) state = .ok next) :
    state.SettlesTo next := by
  induction marks generalizing state with
  | nil =>
    obtain rfl := Except.ok.inj done
    exact ⟨calm, rfl, rfl⟩
  | cons mark rest ih =>
    rw [List.foldlM_cons, bind_eq_ok_iff] at done
    obtain ⟨middle, first, others⟩ := done
    have acted := State.act_frame (flagOf mark.name) state middle calm first
    exact acted.trans (ih acted.calm others)

theorem Between.begin (between : Between state seen) (calm : state.pending = none) {part : Part}
    (done : part.begin state = .ok next) : Between next (seen || part.index?.isSome) := by
  cases part with
  | index path =>
    obtain rfl := Except.ok.inj done
    refine ⟨between.flags, (Bool.or_true seen).symm, ?_⟩
    rintro pending ⟨⟩
    exact Option.some_ne_none path
  | letters first more =>
    simp only [Part.index?, Option.isSome_none, Bool.or_false]
    exact between.of_settlesTo (foldlM_act_frame (first :: more) calm done)
  | word mark =>
    simp only [Part.index?, Option.isSome_none, Bool.or_false]
    exact between.of_settlesTo (State.act_frame _ state next calm done)
  | noFirst =>
    simp only [Part.index?, Option.isSome_none, Bool.or_false]
    exact between.of_settlesTo (State.act_frame (flagOf "no-debug-dump") state next calm done)
  | interval text attached =>
    simp only [Part.index?, Option.isSome_none, Bool.or_false]
    cases attached with
    | true => exact between.of_settlesTo (State.expect_frame _ _ _ state next calm done)
    | false =>
      obtain rfl := Except.ok.inj done
      refine ⟨between.flags, between.operandSeen, ?_⟩
      rintro pending ⟨⟩
      exact Option.some_ne_none text

/-- Reading all arguments and settling then comes to the same as settling each part at once. -/
theorem foldlM_step_parts {parts : List Part} (between : Between state seen)
    (distinct : ∀ part ∈ parts, part.Distinct)
    (single : seen.toNat + (parts.filterMap Part.index?).length ≤ 1) :
    ((parts.flatMap Part.arguments).foldlM (State.step indexDump) state >>= State.settle) =
      state.settle >>= fun settled => parts.foldlM Part.perform settled := by
  induction parts generalizing state seen with
  | nil => exact (bind_pure state.settle).symm
  | cons part rest ih =>
    rw [List.forall_mem_cons] at distinct
    have fresh : part.index? ≠ none → seen = false := by
      intro some
      obtain ⟨path, operand⟩ := Option.ne_none_iff_exists'.1 some
      cases seen with
      | false => rfl
      | true =>
        rw [List.filterMap_cons_some operand, List.length_cons, Bool.toNat_true] at single
        omega
    have begun := foldlM_step_part between distinct.1 fresh
    have onward (middle : State)
        (done : part.arguments.foldlM (State.step indexDump) state = .ok middle) :
        ((rest.flatMap Part.arguments).foldlM (State.step indexDump) middle >>= State.settle) =
          middle.settle >>= fun settled => rest.foldlM Part.perform settled := by
      rw [begun, bind_eq_ok_iff] at done
      obtain ⟨calm, settled, started⟩ := done
      have settles := State.settle_settlesTo settled
      apply ih ((between.of_settlesTo settles).begin settles.calm started) distinct.2
      cases operand : part.index? with
      | none => simpa [operand] using single
      | some path =>
        rw [List.filterMap_cons_some operand, List.length_cons] at single
        rw [Option.isSome_some, Bool.or_true, Bool.toNat_true]
        omega
    calc (((part :: rest).flatMap Part.arguments).foldlM (State.step indexDump) state
            >>= State.settle)
        = part.arguments.foldlM (State.step indexDump) state >>= fun middle =>
            (rest.flatMap Part.arguments).foldlM (State.step indexDump) middle
              >>= State.settle := by
          rw [List.flatMap_cons, List.foldlM_append, bind_assoc]
      _ = part.arguments.foldlM (State.step indexDump) state >>= fun middle =>
            middle.settle >>= fun settled => rest.foldlM Part.perform settled :=
          bind_congr_of_ok onward
      _ = state.settle >>= fun settled => (part :: rest).foldlM Part.perform settled := by
          rw [begun]
          simp only [bind_assoc, List.foldlM_cons, Part.perform]

end ArtifactGroups.CommandLine
