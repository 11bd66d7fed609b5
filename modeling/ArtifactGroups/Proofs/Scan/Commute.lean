import ArtifactGroups.Scan

/-! Walks that do the same over a changed diagnostic stream. Whether the stream is changed before
such a walk or after it makes no difference. -/
namespace ArtifactGroups.Scan

def State.mapDiag (change : Sink → Sink) (state : State) : State :=
  { state with diag := change state.diag }

namespace Walk

def mapDiag {α : Type} (change : Sink → Sink) :
    EStateM.Result Stop State α → EStateM.Result Stop State α
  | .ok a state => .ok a (state.mapDiag change)
  | .error stop state => .error stop (state.mapDiag change)

/-- The walk runs over a changed stream as it runs over the stream itself. -/
def Commutes {α : Type} (change : Sink → Sink) (walk : Walk α) : Prop :=
  ∀ state : State, walk (state.mapDiag change) = mapDiag change (walk state)

variable {change : Sink → Sink}

theorem commutes_pure {α : Type} (a : α) : Commutes change (pure a) := fun _ => rfl

theorem Commutes.bind {α β : Type} {first : Walk α} {next : α → Walk β}
    (one : Commutes change first) (two : ∀ a, Commutes change (next a)) :
    Commutes change (first >>= next) := by
  intro state
  simp only [Bind.bind, EStateM.bind, one state]
  cases first state with
  | ok a middle => exact two a middle
  | error stop last => rfl

theorem Commutes.ite {α : Type} {condition : Prop} [Decidable condition] {first second : Walk α}
    (one : Commutes change first) (two : Commutes change second) :
    Commutes change (if condition then first else second) := by
  split
  next => exact one
  next => exact two

theorem commutes_fetch (source : Source) (ordinal : Nat) :
    Commutes change (fetch source ordinal) := by
  intro state
  unfold fetch
  cases source.fetch ordinal <;> rfl

theorem commutes_print (coordinate : Coordinate) : Commutes change (print coordinate) := by
  intro state
  simp only [print, State.mapDiag]
  rcases state.out.writeTexts coordinate.linePieces with ⟨out, _ | fault⟩ <;> rfl

theorem commutes_emit (options : Options) (document : Document) :
    Commutes change (emit options document) := by
  unfold emit
  split
  next => exact commutes_print _
  next => exact commutes_pure ()

end Walk

end ArtifactGroups.Scan
