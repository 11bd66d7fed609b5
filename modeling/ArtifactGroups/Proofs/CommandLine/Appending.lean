import ArtifactGroups.Proofs.CommandLine.Spelling

/-! What the parts of a command line add to the settings. Each part succeeds unless something is
given too often or cannot be read, and so do all of them, one after the other: only what they add
together is checked. -/
namespace ArtifactGroups.CommandLine

/-- The settings of `index-dump` that are given at most once. -/
def once : List String := [indexDump.operand.name, "quiet", "no-debug-dump", "progress-every"]

namespace Settings

def Single (settings : Settings) : Prop :=
  ∀ name ∈ once, settings.countP (·.1 == name) ≤ 1

variable {settings added : Settings} {name : String}

theorem has_eq_false_iff : settings.has name = false ↔ settings.countP (·.1 == name) = 0 := by
  simp [has, List.countP_eq_zero]

theorem Single.left (single : Single (settings ++ added)) : settings.Single := by
  intro name member
  have both := single name member
  rw [List.countP_append] at both
  omega

theorem Single.absent (setting : Setting) (single : Single (settings ++ [(name, setting)]))
    (member : name ∈ once) : settings.has name = false := by
  have both := single name member
  rw [List.countP_append, List.countP_singleton, if_pos (beq_self_eq_true name)] at both
  apply has_eq_false_iff.2
  omega

theorem Single.concat (setting : Setting) (single : settings.Single)
    (free : name ∈ once → settings.has name = false) :
    Single (settings ++ [(name, setting)]) := by
  intro other member
  rw [List.countP_append, List.countP_singleton]
  by_cases same : name = other
  · obtain rfl := same
    have absent := has_eq_false_iff.1 (free member)
    rw [if_pos (beq_self_eq_true name)]
    omega
  · rw [if_neg (by simpa using same)]
    exact single other member

end Settings

namespace State

/-- Nothing is pending, and nothing has been given too often. -/
structure Tidy (state : State) : Prop where
  calm : state.pending = none
  single : state.settings.Single

/-- What an act adds to the settings, and that it succeeds unless something is given too often. -/
structure Appends (act : State → Except Stop State) (gives : Settings → Prop) : Prop where
  sound : ∀ {state next}, state.Tidy → act state = .ok next →
    next.Tidy ∧ ∃ added, gives added ∧ next.settings = state.settings ++ added
  complete : ∀ {state added}, state.Tidy → gives added → (state.settings ++ added).Single →
    ∃ next, act state = .ok next ∧ next.settings = state.settings ++ added

end State

def One (name : String) (fits : Setting → Prop) (added : Settings) : Prop :=
  ∃ setting, fits setting ∧ added = [(name, setting)]

def Adds {ι : Type} (gives : ι → Settings → Prop) : List ι → Settings → Prop
  | [], added => added = []
  | item :: rest, added => ∃ own others, gives item own ∧ Adds gives rest others ∧
      added = own ++ others

theorem exists_adds_iff {ι : Type} {gives : ι → Settings → Prop} {items : List ι} :
    (∃ added, Adds gives items added) ↔ ∀ item ∈ items, ∃ own, gives item own := by
  induction items with
  | nil => simp [Adds]
  | cons item rest ih =>
    rw [List.forall_mem_cons, ← ih]
    constructor
    · rintro ⟨added, own, others, first, more, rfl⟩
      exact ⟨⟨own, first⟩, others, more⟩
    · rintro ⟨⟨own, first⟩, others, more⟩
      exact ⟨own ++ others, own, others, first, more, rfl⟩

namespace State

variable {act : State → Except Stop State} {gives : Settings → Prop}

theorem Appends.congr {other : State → Except Stop State} (appends : Appends act gives)
    (same : ∀ state, state.pending = none → other state = act state) : Appends other gives where
  sound tidy done := appends.sound tidy (same _ tidy.calm ▸ done)
  complete tidy given single := by
    rw [same _ tidy.calm]
    exact appends.complete tidy given single

/-- Item by item, only the sum is checked. -/
theorem Appends.foldlM {ι : Type} {act : State → ι → Except Stop State}
    {gives : ι → Settings → Prop}
    (each : ∀ item, Appends (fun state => act state item) (gives item)) (items : List ι) :
    Appends (fun state => items.foldlM act state) (Adds gives items) := by
  induction items with
  | nil =>
    refine ⟨fun tidy done => ?_, fun tidy given single => ?_⟩
    · obtain rfl := Except.ok.inj done
      exact ⟨tidy, [], rfl, (List.append_nil _).symm⟩
    · obtain rfl := given
      exact ⟨_, rfl, (List.append_nil _).symm⟩
  | cons item rest ih =>
    refine ⟨fun tidy done => ?_, fun tidy given single => ?_⟩
    · rw [List.foldlM_cons, bind_eq_ok_iff] at done
      obtain ⟨middle, first, onward⟩ := done
      obtain ⟨between, own, given, grown⟩ := (each item).sound tidy first
      obtain ⟨last, others, more, result⟩ := ih.sound between onward
      refine ⟨last, own ++ others, ⟨own, others, given, more, rfl⟩, ?_⟩
      rw [result, grown, List.append_assoc]
    · obtain ⟨own, others, first, more, rfl⟩ := given
      rw [← List.append_assoc] at single
      obtain ⟨middle, begun, grown⟩ := (each item).complete tidy first single.left
      have between := ((each item).sound tidy begun).1
      rw [← grown] at single
      obtain ⟨last, onward, result⟩ := ih.complete between more single
      refine ⟨last, ?_, ?_⟩
      · rw [List.foldlM_cons, begun]
        exact onward
      · rw [result, grown, List.append_assoc]

theorem appends_one {name : String} {fits : Setting → Prop}
    (adds : ∀ state next, state.Tidy → (act state = .ok next ↔ ∃ setting, fits setting ∧
      (name ∈ once → state.settings.has name = false) ∧ next = state.add name setting)) :
    Appends act (One name fits) where
  sound tidy done := by
    obtain ⟨setting, fit, free, rfl⟩ := (adds _ _ tidy).1 done
    exact ⟨⟨tidy.calm, tidy.single.concat setting free⟩, _, ⟨setting, fit, rfl⟩, rfl⟩
  complete tidy given single := by
    obtain ⟨setting, fit, rfl⟩ := given
    exact ⟨_, (adds _ _ tidy).2 ⟨setting, fit, single.absent setting, rfl⟩, rfl⟩

variable {flag : Flag} {name : String}

theorem appends_switch (long : flag.long = name) (action : flag.action = .switch)
    (member : name ∈ once) : Appends (·.act flag) (One name (· = .present)) := by
  apply appends_one
  intro state next tidy
  rw [act, settle_of_none tidy.calm, action, long]
  simp only [bind, Except.bind, member, true_imp_iff, exists_eq_left]
  cases state.settings.has name with
  | true => simp [fail]
  | false => simp [eq_comm]

theorem appends_counter (long : flag.long = name) (action : flag.action = .counter)
    (many : name ∉ once) : Appends (·.act flag) (One name (· = .present)) := by
  apply appends_one
  intro state next tidy
  rw [act, settle_of_none tidy.calm, action, long]
  simp only [bind, Except.bind, many, false_imp_iff, true_and, exists_eq_left, Except.ok.injEq]
  exact eq_comm

theorem appends_settleValue (pending : Pending) {value : String}
    (given : pending.value = some value) (member : pending.name ∈ once) :
    Appends (·.settleValue pending) (One pending.name (readValue pending value = .ok ·)) := by
  apply appends_one
  intro state next tidy
  simp only [settleValue_eq_ok_iff, given, Option.some.injEq, member, true_imp_iff]
  constructor
  · rintro ⟨_, setting, rfl, free, read, rfl⟩
    exact ⟨setting, read, free, rfl⟩
  · rintro ⟨setting, read, free, rfl⟩
    exact ⟨value, setting, rfl, free, read, rfl⟩

theorem Appends.pending {pending : Pending} (settles : Appends (·.settleValue pending) gives)
    (begin : State → State) (begun : ∀ state, (begin state).pending = some pending)
    (same : ∀ state, (begin state).settings = state.settings) :
    Appends (fun state => (begin state).settle) gives where
  sound {state next} tidy done := by
    have closed : ({ begin state with pending := none } : State).Tidy :=
      ⟨rfl, (same state).symm ▸ tidy.single⟩
    rw [settle_of_some (begun state)] at done
    have grown := settles.sound closed done
    rw [← same state]
    exact grown
  complete {state added} tidy given single := by
    have closed : ({ begin state with pending := none } : State).Tidy :=
      ⟨rfl, (same state).symm ▸ tidy.single⟩
    rw [← same state] at single ⊢
    rw [settle_of_some (begun state)]
    have grown := settles.complete closed given single
    exact grown

theorem Appends.settle (appends : Appends act gives) :
    Appends (fun state => act state >>= State.settle) gives where
  sound tidy done := by
    obtain ⟨middle, acted, settled⟩ := bind_eq_ok_iff.1 done
    obtain ⟨between, grown⟩ := appends.sound tidy acted
    rw [settle_of_none between.calm] at settled
    obtain rfl := Except.ok.inj settled
    exact ⟨between, grown⟩
  complete tidy given single := by
    obtain ⟨middle, acted, grown⟩ := appends.complete tidy given single
    have calm := (appends.sound tidy acted).1.calm
    exact ⟨middle, bind_eq_ok_iff.2 ⟨middle, acted, settle_of_none calm⟩, grown⟩

end State

def Part.Gives : Part → Settings → Prop
  | .index path => One indexDump.operand.name fun setting => path ≠ "" ∧ setting = .text path
  | .letters first more => (· = (first :: more).map fun mark => (mark.name, .present))
  | .word mark => One mark.name (· = .present)
  | .noFirst => One "no-debug-dump" (· = .present)
  | .interval text _ =>
    One "progress-every" fun setting => ∃ n, positive text = .ok n ∧ setting = .number n

theorem adds_marks (marks : List Mark) :
    Adds (fun mark => One mark.name (· = .present)) marks =
      (· = marks.map fun mark => (mark.name, .present)) := by
  induction marks with
  | nil => rfl
  | cons mark rest ih =>
    funext added
    apply propext
    rw [Adds, ih]
    constructor
    · rintro ⟨own, others, ⟨_, rfl, rfl⟩, rfl, rfl⟩
      rfl
    · rintro rfl
      exact ⟨_, _, ⟨_, rfl, rfl⟩, rfl, rfl⟩

theorem appends_mark (mark : Mark) :
    State.Appends (·.act (flagOf mark.name)) (One mark.name (· = .present)) := by
  have long := Command.long_of_byLong? (byLong?_name mark)
  cases mark with
  | quiet => exact State.appends_switch long (action_mark .quiet) (by simp [once, Mark.name])
  | verbose => exact State.appends_counter long (action_mark .verbose) (by decide +kernel)

theorem appends_noFirst :
    State.Appends (·.act (flagOf "no-debug-dump")) (One "no-debug-dump" (· = .present)) :=
  State.appends_switch (Command.long_of_byLong? byLong?_noFirst) action_noFirst (by simp [once])

theorem appends_perform (part : Part) : State.Appends (part.perform ·) part.Gives := by
  cases part with
  | index path =>
    have settles := State.appends_settleValue ⟨indexDump.operand.name,
      indexDump.operand.shown, .path, some path⟩ rfl List.mem_cons_self
    simp only [State.readValue_path_eq_ok_iff] at settles
    exact settles.pending (fun state => { state with operandSeen := true, pending := _ })
      (fun _ => rfl) fun _ => rfl
  | letters first more =>
    have acts := State.Appends.foldlM appends_mark (first :: more)
    rw [adds_marks] at acts
    exact acts.settle
  | word mark => exact (appends_mark mark).settle
  | noFirst => exact appends_noFirst.settle
  | interval text attached =>
    have long := Command.long_of_byLong? byLong?_interval
    have member : (flagOf "progress-every").long ∈ once := by simp [long, once]
    have settles := State.appends_settleValue ⟨(flagOf "progress-every").long,
      (flagOf "progress-every").shown, .count, some text⟩ rfl member
    simp only [State.readValue_count_eq_ok_iff, long] at settles
    cases attached with
    | true =>
      have expects := settles.congr (State.expect_of_calm (flagOf "progress-every") .count text)
      exact expects.settle
    | false =>
      exact settles.pending (fun state => { state with pending := _ }) (fun _ => rfl) fun _ => rfl

end ArtifactGroups.CommandLine
