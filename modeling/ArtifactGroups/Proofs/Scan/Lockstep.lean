import ArtifactGroups.Proofs.Scan.Aside

/-! Two walks side by side that find the same matches and may say different things about them.
The first has a reliable diagnostic stream. Until the stream of the second fails, both do the
same to the output; from then on the first is ahead, since a walk never takes anything back. -/
namespace ArtifactGroups.Scan

/-- No later than `later`: fewer fetches were tried and less was written, but nothing else. -/
structure State.Behind (earlier later : State) : Prop where
  fetched : earlier.fetched ≤ later.fetched
  stored : earlier.out.stored <+: later.out.stored

theorem State.Behind.refl (state : State) : state.Behind state :=
  ⟨Nat.le_refl _, List.prefix_refl _⟩

theorem State.Behind.trans {first middle last : State} (one : first.Behind middle)
    (two : middle.Behind last) : first.Behind last :=
  ⟨Nat.le_trans one.fetched two.fetched, one.stored.trans two.stored⟩

namespace Walk

def lastState {α : Type} : EStateM.Result Stop State α → State
  | .ok _ state => state
  | .error _ state => state

/-- The walk takes nothing back. -/
def Grows {α : Type} (walk : Walk α) : Prop :=
  ∀ state : State, state.Behind (lastState (walk state))

theorem Grows.bind {α β : Type} {first : Walk α} {next : α → Walk β} (one : Grows first)
    (two : ∀ a, Grows (next a)) : Grows (first >>= next) := by
  intro state
  have early := one state
  simp only [Bind.bind, EStateM.bind]
  split
  next a middle ran =>
    rw [ran] at early
    exact early.trans (two a middle)
  next ran =>
    rw [ran] at early
    exact early

theorem Aside.grows {walk : Walk Unit} (aside : Aside walk) : Grows walk := by
  intro state
  obtain ⟨diag, -, done | ⟨fault, -, failed⟩⟩ := aside state
  · rw [done]
    exact ⟨Nat.le_refl _, List.prefix_refl _⟩
  · rw [failed]
    exact ⟨Nat.le_refl _, List.prefix_refl _⟩

theorem grows_fetch (source : Source) (ordinal : Nat) : Grows (fetch source ordinal) := by
  intro state
  unfold fetch
  split <;> exact ⟨Nat.le_succ _, List.prefix_refl _⟩

theorem grows_print (coordinate : Coordinate) : Grows (print coordinate) := by
  intro state
  have stored := (state.out.writeTexts_spec coordinate.linePieces).1.stored_eq
  have longer : state.out.stored <+: (state.out.writeTexts coordinate.linePieces).1.stored := by
    rw [stored]
    exact List.prefix_append ..
  unfold print
  split
  next written =>
    rw [written] at longer
    exact ⟨Nat.le_refl _, longer⟩
  next written =>
    rw [written] at longer
    exact ⟨Nat.le_refl _, longer⟩

theorem grows_emit (options : Options) (document : Document) : Grows (emit options document) := by
  unfold emit
  split
  next => exact grows_print _
  next => exact aside_pure.grows

theorem grows_visit (source : Source) (options : Options) (level : Level) (ordinal : Nat) :
    Grows (visit source options level ordinal) :=
  (grows_fetch source ordinal).bind fun document =>
    (aside_dump options ordinal document).grows.bind fun _ =>
      (grows_emit options document).bind fun _ => (aside_mark options level ordinal).grows

theorem grows_visitAll (source : Source) (options : Options) (level : Level)
    (ordinal count : Nat) : Grows (visitAll source options level ordinal count) := by
  induction count generalizing ordinal with
  | zero => exact aside_pure.grows
  | succ count ih => exact (grows_visit source options level ordinal).bind fun _ => ih (ordinal + 1)

end Walk

/-- The states agree in all but their diagnostic streams. The one of the first is reliable, and
the one of the second fails as `diag` does, if at all. -/
structure Paired (diag : Sink) (first second : State) : Prop where
  fetched : second.fetched = first.fetched
  scanned : second.scanned = first.scanned
  matched : second.matched = first.matched
  out : second.out = first.out
  reliable : first.diag.Reliable
  faults : ∀ fault, second.diag.MayFail fault → diag.MayFail fault

theorem Paired.start (out diag : Sink) {heard : Sink} (reliable : heard.Reliable) :
    Paired diag { out, diag := heard } { out, diag } :=
  ⟨rfl, rfl, rfl, rfl, reliable, fun _ => id⟩

/-- How two walks end that started from paired states. -/
inductive InStep (diag : Sink) :
    EStateM.Result Stop State Unit → EStateM.Result Stop State Unit → Prop where
  | passed {first second : State} (paired : Paired diag first second) :
    InStep diag (.ok () first) (.ok () second)
  | stopped {stop : Stop} {first second : State} (paired : Paired diag first second) :
    InStep diag (.error stop first) (.error stop second)
  /-- The second walk could not go on for its diagnostic stream. -/
  | disturbed {result : EStateM.Result Stop State Unit} {second : State} {fault : IoError}
    (fails : diag.MayFail fault) (behind : second.Behind (Walk.lastState result)) :
    InStep diag result (.error (.failed (.io fault)) second)

namespace Walk

/-- From paired states the two walks end in step. -/
def Lockstep (diag : Sink) (first second : Walk Unit) : Prop :=
  ∀ s t : State, Paired diag s t → InStep diag (first s) (second t)

variable {diag : Sink}

theorem Lockstep.bind {first second : Walk Unit} {next next' : Unit → Walk Unit}
    (one : Lockstep diag first second) (two : Lockstep diag (next ()) (next' ()))
    (grows : Grows (next ())) : Lockstep diag (first >>= next) (second >>= next') := by
  intro s t paired
  have ended := one s t paired
  simp only [Bind.bind, EStateM.bind]
  generalize first s = ranFirst at ended ⊢
  generalize second t = ranSecond at ended ⊢
  cases ended with
  | passed middle => exact two _ _ middle
  | stopped middle => exact .stopped middle
  | disturbed fails behind =>
    -- Only the first walk goes on, and it takes nothing back.
    cases ranFirst with
    | ok _ middle => exact .disturbed fails (behind.trans (grows middle))
    | error stop last => exact .disturbed fails behind

/-- What is only said need not be the same. -/
theorem Aside.lockstep {first second : Walk Unit} (one : Aside first) (two : Aside second) :
    Lockstep diag first second := by
  intro s t paired
  obtain ⟨heard, reliable, done⟩ := one.silent s paired.reliable
  obtain ⟨told, faults, passed | ⟨fault, fails, failed⟩⟩ := two t
  · rw [done, passed]
    exact .passed ⟨paired.fetched, paired.scanned, paired.matched, paired.out, reliable,
      fun fault => paired.faults fault ∘ faults fault⟩
  · rw [done, failed]
    refine .disturbed (paired.faults fault fails) ⟨Nat.le_of_eq paired.fetched, ?_⟩
    simp only [lastState, paired.out, List.prefix_refl]

theorem lockstep_print (coordinate : Coordinate) :
    Lockstep diag (print coordinate) (print coordinate) := by
  intro s t paired
  unfold print
  rw [paired.out]
  split
  next =>
    exact .passed ⟨paired.fetched, paired.scanned, congrArg (· + 1) paired.matched, rfl,
      paired.reliable, paired.faults⟩
  next =>
    exact .stopped ⟨paired.fetched, paired.scanned, paired.matched, rfl, paired.reliable,
      paired.faults⟩

theorem lockstep_emit {options options' : Options} {document document' : Document}
    (same : options.match? document = options'.match? document') :
    Lockstep diag (emit options document) (emit options' document') := by
  unfold emit
  rw [same]
  cases options'.match? document' with
  | none => exact aside_pure.lockstep aside_pure
  | some coordinate => exact lockstep_print coordinate

end Walk

/-- At this ordinal both sources fail alike, or both give a document with the same match. -/
def SameAt (source : Source) (options : Options) (source' : Source) (options' : Options)
    (ordinal : Nat) : Prop :=
  (source.fetch ordinal).map options.match? = (source'.fetch ordinal).map options'.match?

namespace Walk

variable {diag : Sink} {source source' : Source} {options options' : Options}

theorem lockstep_visit (level level' : Level) {ordinal : Nat}
    (same : SameAt source options source' options' ordinal) :
    Lockstep diag (visit source options level ordinal) (visit source' options' level' ordinal) := by
  intro s t paired
  unfold SameAt at same
  cases fetched : source.fetch ordinal with
  | error error =>
    cases fetched' : source'.fetch ordinal with
    | ok document' => simp [fetched, fetched', Except.map] at same
    | error error' =>
      obtain rfl : error = error' := by simpa [fetched, fetched', Except.map] using same
      simp only [visit, Bind.bind, EStateM.bind, fetch, fetched, fetched']
      exact .stopped ⟨congrArg (· + 1) paired.fetched, paired.scanned, paired.matched, paired.out,
        paired.reliable, paired.faults⟩
  | ok document =>
    cases fetched' : source'.fetch ordinal with
    | error error' => simp [fetched, fetched', Except.map] at same
    | ok document' =>
      have match_eq : options.match? document = options'.match? document' := by
        simpa [fetched, fetched', Except.map] using same
      have rest : Lockstep diag
          (do dump options ordinal document; emit options document; mark options level ordinal)
          (do dump options' ordinal document'; emit options' document'
              mark options' level' ordinal) := by
        have shown : Lockstep diag (dump options ordinal document)
            (dump options' ordinal document') :=
          (aside_dump _ _ _).lockstep (aside_dump _ _ _)
        have marked : Lockstep diag (mark options level ordinal) (mark options' level' ordinal) :=
          (aside_mark _ _ _).lockstep (aside_mark _ _ _)
        have grows := (aside_mark options level ordinal).grows
        exact shown.bind ((lockstep_emit match_eq).bind marked grows)
          ((grows_emit options document).bind fun _ => grows)
      have both : Paired diag
          { s with fetched := s.fetched + 1, scanned := s.scanned + 1 }
          { t with fetched := t.fetched + 1, scanned := t.scanned + 1 } :=
        ⟨congrArg (· + 1) paired.fetched, congrArg (· + 1) paired.scanned, paired.matched,
          paired.out, paired.reliable, paired.faults⟩
      have ended := rest _ _ both
      simp only [Bind.bind] at ended
      simpa only [visit, Bind.bind, EStateM.bind, fetch, fetched, fetched'] using ended

theorem lockstep_visitAll (level level' : Level) {ordinal count : Nat}
    (same : ∀ i, ordinal ≤ i → i < ordinal + count → SameAt source options source' options' i) :
    Lockstep diag (visitAll source options level ordinal count)
      (visitAll source' options' level' ordinal count) := by
  induction count generalizing ordinal with
  | zero => exact aside_pure.lockstep aside_pure
  | succ count ih =>
    have visited : Lockstep diag (visit source options level ordinal)
        (visit source' options' level' ordinal) :=
      lockstep_visit level level' (same ordinal (Nat.le_refl _) (by omega))
    have later : Lockstep diag (visitAll source options level (ordinal + 1) count)
        (visitAll source' options' level' (ordinal + 1) count) :=
      ih fun i lower upper => same i (by omega) (by omega)
    exact visited.bind later (grows_visitAll source options level (ordinal + 1) count)

end Walk

end ArtifactGroups.Scan
