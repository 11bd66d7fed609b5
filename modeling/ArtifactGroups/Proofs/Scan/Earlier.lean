import ArtifactGroups.Proofs.Scan.Commute
import ArtifactGroups.Proofs.Sink

/-! What was done to the diagnostic stream before a scan has no influence on the scan, but for the
room that it took: a scan over a used stream is the scan over a fresh one, with the earlier acts
in front of its own. -/
namespace ArtifactGroups

namespace Sink

/-- The sink as if all of an earlier sink's acts had come before its own. -/
def after (earlier sink : Sink) : Sink := { sink with history := sink.history ++ earlier.history }

variable (earlier sink : Sink)

theorem stored_after : (after earlier sink).stored = earlier.stored ++ sink.stored := by
  simp [after, stored]

theorem flushes_after : (after earlier sink).flushes = earlier.flushes + sink.flushes := by
  simp [after, flushes, Nat.add_comm]

theorem writeText_after (text : String) :
    (after earlier sink).writeText text =
      (after earlier (sink.writeText text).1, (sink.writeText text).2) := rfl

theorem flush_after :
    (after earlier sink).flush = (after earlier sink.flush.1, sink.flush.2) := rfl

theorem note_after (level : Level) (event : Event) :
    (after earlier sink).note level event = after earlier (sink.note level event) := by
  unfold note
  split <;> rfl

/-- A fresh sink with the room that these bytes leave. -/
def remaining (sink : Sink) (bytes : Bytes) : Sink :=
  { sink with history := [], room := sink.room.map (· - bytes.length) }

variable {earlier sink}

theorem Grown.eq_after {start : Sink} {bytes : Bytes} (grown : Grown start bytes sink) :
    sink = after sink (start.remaining bytes) := by
  simp only [after, remaining, List.nil_append, ← grown.room, ← grown.writeError,
    ← grown.flushError, ← grown.flushesOk]

end Sink

namespace Scan

def Run.mapDiag (change : Sink → Sink) (run : Run) : Run := { run with diag := change run.diag }

variable {earlier : Sink}

namespace Walk

theorem commutes_say (text : String) : Commutes (.after earlier) (say text) := by
  intro state
  simp only [say, State.mapDiag, Sink.writeText_after]
  rcases state.diag.writeText text with ⟨diag, _ | fault⟩ <;> rfl

theorem commutes_flushDiag : Commutes (.after earlier) flushDiag := by
  intro state
  simp only [flushDiag, State.mapDiag, Sink.flush_after]
  rcases state.diag.flush with ⟨diag, _ | fault⟩ <;> rfl

theorem commutes_note (level : Level) {event : State → Event}
    (same : ∀ state, event (state.mapDiag (.after earlier)) = event state) :
    Commutes (.after earlier) (note level event) := by
  intro state
  simp only [note, same]
  simp only [State.mapDiag, Sink.note_after]
  rfl

theorem commutes_announce (options : Options) (text : String) :
    Commutes (.after earlier) (announce options text) :=
  (commutes_pure ()).ite (commutes_say text)

theorem commutes_mark (options : Options) (level : Level) (ordinal : Nat) :
    Commutes (.after earlier) (mark options level ordinal) := by
  have marker : Commutes (.after earlier) (do say progressMarker; flushDiag) :=
    (commutes_say _).bind fun _ => commutes_flushDiag
  have noted : Commutes (.after earlier)
      (note level fun state => progressEvent ordinal state.matched) :=
    commutes_note level fun _ => rfl
  exact (noted.bind fun _ => (commutes_pure ()).ite marker).ite (commutes_pure ())

theorem commutes_visit (source : Source) (options : Options) (level : Level) (ordinal : Nat) :
    Commutes (.after earlier) (visit source options level ordinal) := by
  have shown (document : Document) : Commutes (.after earlier) (dump options ordinal document) :=
    (commutes_say _).ite (commutes_pure ())
  exact (commutes_fetch source ordinal).bind fun document =>
    (shown document).bind fun _ =>
      (commutes_emit options document).bind fun _ => commutes_mark options level ordinal

theorem commutes_visitAll (source : Source) (options : Options) (level : Level)
    (ordinal count : Nat) :
    Commutes (.after earlier) (visitAll source options level ordinal count) := by
  induction count generalizing ordinal with
  | zero => exact commutes_pure ()
  | succ count ih =>
    exact (commutes_visit source options level ordinal).bind fun _ => ih (ordinal + 1)

end Walk

theorem closed_after (state : State) (total : Nat) (level : Level) :
    (state.mapDiag (.after earlier)).closed total level =
      (state.closed total level).mapDiag (.after earlier) := by
  simp only [State.closed, State.mapDiag, Sink.note_after]
  rfl

theorem completed_after (source : Source) (options : Options) (level : Level) (state : State) :
    (state.mapDiag (.after earlier)).completed source options level =
      (state.completed source options level).mapDiag (.after earlier) := by
  have finishing : Walk.Commutes (.after earlier) (do
      Walk.announce options completionText
      Walk.flushDiag
      Walk.note level fun _ =>
        finishedEvent source.location source.total state.scanned state.matched) :=
    (Walk.commutes_announce options _).bind fun _ => Walk.commutes_flushDiag.bind fun _ =>
      Walk.commutes_note level fun _ => rfl
  have ended := finishing state
  have report : (state.mapDiag (.after earlier)).report source.total =
      state.report source.total := rfl
  unfold State.completed
  simp only [report]
  simp only [State.report] at ended ⊢
  rw [ended]
  generalize (do
      Walk.announce options completionText
      Walk.flushDiag
      Walk.note level fun _ =>
        finishedEvent source.location source.total state.scanned state.matched : Walk Unit) state =
    finished
  cases finished <;> rfl

theorem settled_after (source : Source) (options : Options) (level : Level) (outputGone : Bool)
    (state : State) :
    (state.mapDiag (.after earlier)).settled source options level outputGone =
      (state.settled source options level outputGone).mapDiag (.after earlier) := by
  have out : (state.mapDiag (.after earlier)).out = state.out := rfl
  unfold State.settled
  rw [out]
  rcases state.out.flush with ⟨out, _ | fault⟩
  · cases outputGone with
    | true => exact closed_after { state with out } _ level
    | false => exact completed_after source options level { state with out }
  · simp only
    split
    next => exact closed_after { state with out } _ level
    next => rfl

theorem conclude_after (source : Source) (options : Options) (level : Level)
    (walked : EStateM.Result Stop State Unit) :
    conclude source options level (Walk.mapDiag (.after earlier) walked) =
      (conclude source options level walked).mapDiag (.after earlier) := by
  match walked with
  | .ok _ state => exact settled_after source options level false state
  | .error .outputGone state => exact settled_after source options level true state
  | .error (.failed error) state => rfl

/-- A scan over a used stream adds to it what it would write to a fresh one. -/
theorem run_after (source : Source) (options : Options) (out diag : Sink) (level : Level) :
    run source options out (.after earlier diag) level =
      (run source options out diag level).mapDiag (.after earlier) := by
  have announces : Walk.Commutes (.after earlier) _ :=
    Walk.commutes_announce options (totalText source.total)
  have walks : Walk.Commutes (.after earlier) _ :=
    Walk.commutes_visitAll source options level 0 source.total
  have announced := announces { out, diag }
  unfold run
  cases options.ensureValid with
  | error error => rfl
  | ok =>
    simp only [State.mapDiag] at announced ⊢
    rw [announced]
    generalize Walk.announce options (totalText source.total) { out, diag } = ended
    cases ended with
    | ok _ state =>
      simp only [Walk.mapDiag, walks state]
      exact conclude_after source options level _
    | error stop state => rfl

end Scan

end ArtifactGroups
