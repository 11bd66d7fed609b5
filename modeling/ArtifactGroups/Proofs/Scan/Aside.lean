import ArtifactGroups.Scan
import ArtifactGroups.Proofs.Sink

/-! The steps of a walk that are only for people: whatever they write, they change the
diagnostic stream alone, and they fail with nothing but a failure of that stream. -/
namespace ArtifactGroups

theorem Sink.Reliable.note {sink : Sink} (reliable : sink.Reliable) (level : Level)
    (event : Event) : (sink.note level event).Reliable := by
  unfold Sink.note
  split
  next => exact reliable.write _
  next => exact reliable

namespace Scan.Walk

/-- The walk touches only the diagnostic stream, and stops only if that stream fails. -/
def Aside (walk : Walk Unit) : Prop :=
  ∀ state : State, ∃ diag : Sink, (∀ fault, diag.MayFail fault → state.diag.MayFail fault) ∧
    (walk state = .ok () { state with diag } ∨
      ∃ fault, state.diag.MayFail fault ∧
        walk state = .error (.failed (.io fault)) { state with diag })

/-- A walk that always succeeds and changes the diagnostic stream alone, as long as that stream
is reliable. -/
def Silent (walk : Walk Unit) : Prop :=
  ∀ state : State, state.diag.Reliable →
    ∃ diag, diag.Reliable ∧ walk state = .ok () { state with diag }

theorem Aside.silent {walk : Walk Unit} (aside : Aside walk) : Silent walk := by
  intro state reliable
  rw [Sink.reliable_iff] at reliable
  obtain ⟨diag, faults, done | ⟨fault, fails, -⟩⟩ := aside state
  · exact ⟨diag, Sink.reliable_iff.2 fun fault => mt (faults fault) (reliable fault), done⟩
  · exact absurd fails (reliable fault)

theorem aside_pure : Aside (pure ()) := fun state => ⟨state.diag, fun _ => id, .inl rfl⟩

theorem Aside.bind {first : Walk Unit} {next : Unit → Walk Unit} (one : Aside first)
    (two : Aside (next ())) : Aside (first >>= next) := by
  intro state
  obtain ⟨middle, early, ran | ⟨fault, fails, failed⟩⟩ := one state
  · obtain ⟨diag, late, ended⟩ := two { state with diag := middle }
    refine ⟨diag, fun fault => early fault ∘ late fault, ?_⟩
    simp only [Bind.bind, EStateM.bind, ran]
    rcases ended with done | ⟨fault, fails, failed⟩
    · exact .inl done
    · exact .inr ⟨fault, early fault fails, failed⟩
  · refine ⟨middle, early, .inr ⟨fault, fails, ?_⟩⟩
    simp only [Bind.bind, EStateM.bind, failed]

theorem Aside.ite {condition : Prop} [Decidable condition] {first second : Walk Unit}
    (one : Aside first) (two : Aside second) : Aside (if condition then first else second) := by
  split
  next => exact one
  next => exact two

theorem aside_say (text : String) : Aside (say text) := by
  intro state
  refine ⟨(state.diag.writeText text).1, fun fault => (state.diag.mayFail_write _ fault).1, ?_⟩
  unfold say
  split
  next written => exact .inl (by rw [written])
  next fault written =>
    have failed : (state.diag.writeText text).2 = some fault := by rw [written]
    exact .inr ⟨fault, Sink.mayFail_of_write failed, by rw [written]⟩

theorem aside_announce (options : Options) (text : String) : Aside (announce options text) :=
  aside_pure.ite (aside_say text)

theorem aside_flushDiag : Aside flushDiag := by
  intro state
  refine ⟨state.diag.flush.1, fun fault => (state.diag.mayFail_flush fault).1, ?_⟩
  unfold flushDiag
  split
  next flushed => exact .inl (by rw [flushed])
  next fault flushed =>
    have failed : state.diag.flush.2 = some fault := by rw [flushed]
    exact .inr ⟨fault, Sink.mayFail_of_flush failed, by rw [flushed]⟩

theorem aside_note (level : Level) (event : State → Event) : Aside (note level event) := by
  intro state
  refine ⟨state.diag.note level (event state), fun fault => ?_, .inl rfl⟩
  unfold Sink.note
  split
  next => exact (state.diag.mayFail_write _ fault).1
  next => exact id

theorem aside_dump (options : Options) (ordinal : Nat) (document : Document) :
    Aside (dump options ordinal document) :=
  (aside_say _).ite aside_pure

theorem aside_mark (options : Options) (level : Level) (ordinal : Nat) :
    Aside (mark options level ordinal) := by
  have marker : Aside (do say progressMarker; flushDiag) := (aside_say _).bind aside_flushDiag
  exact Aside.ite (Aside.bind (aside_note level _) (aside_pure.ite marker)) aside_pure

theorem aside_finish (options : Options) (level : Level) (text : String)
    (event : State → Event) :
    Aside (do announce options text; flushDiag; note level event) :=
  (aside_announce options text).bind (aside_flushDiag.bind (aside_note level event))

end Scan.Walk

end ArtifactGroups
