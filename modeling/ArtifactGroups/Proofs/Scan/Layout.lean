import ArtifactGroups.Proofs.Scan.Lockstep
import ArtifactGroups.Proofs.Scan.Outcome

/-! What a scan says for people, and when it flushes that. The walk says the dump of the first
document once that is fetched, and a marker behind each ordinal that the interval divides, except
the first; so the markers are counted by a division, wherever the walk comes to an end. Log events
stay hidden here: they are no part of the layout. -/
namespace ArtifactGroups

namespace Sink

/-- A reliable stream that got this text and so many flushes since `start`. -/
structure Heard (start : Sink) (text : String) (flushes : Nat) (sink : Sink) : Prop where
  stored : sink.stored = start.stored ++ Text.utf8 text
  flushes : sink.flushes = start.flushes + flushes
  reliable : sink.Reliable

theorem Heard.refl {sink : Sink} (reliable : sink.Reliable) : Heard sink "" 0 sink :=
  ⟨by simp, rfl, reliable⟩

theorem Heard.trans {start middle sink : Sink} {text more : String} {flushes further : Nat}
    (first : Heard start text flushes middle) (second : Heard middle more further sink) :
    Heard start (text ++ more) (flushes + further) sink := by
  refine ⟨?_, ?_, second.reliable⟩
  · rw [second.stored, first.stored, Text.utf8_append, List.append_assoc]
  · rw [second.flushes, first.flushes, Nat.add_assoc]

theorem heard_writeText {sink : Sink} (reliable : sink.Reliable) (text : String) :
    Heard sink text 0 (sink.writeText text).1 := by
  have grown := sink.grown_write (Text.utf8 text)
  rw [kept_of_fits (reliable.fits _)] at grown
  exact ⟨grown.stored_eq, grown.flushes_eq, reliable.write _⟩

theorem heard_flush {sink : Sink} (reliable : sink.Reliable) : Heard sink "" 1 sink.flush.1 :=
  ⟨by simp, by simp, reliable.flush⟩

end Sink

namespace Scan

namespace Walk

/-- As long as the diagnostic stream is reliable, the walk adds this to it and does nothing else. -/
def Says (walk : Walk Unit) (text : String) (flushes : Nat) : Prop :=
  ∀ state : State, state.diag.Reliable →
    ∃ diag, Sink.Heard state.diag text flushes diag ∧ walk state = .ok () { state with diag }

theorem says_pure : Says (pure ()) "" 0 := fun state reliable =>
  ⟨state.diag, .refl reliable, rfl⟩

theorem Says.bind {first : Walk Unit} {next : Unit → Walk Unit} {text more : String}
    {flushes further : Nat} (one : Says first text flushes) (two : Says (next ()) more further) :
    Says (first >>= next) (text ++ more) (flushes + further) := by
  intro state reliable
  obtain ⟨middle, early, ran⟩ := one state reliable
  obtain ⟨diag, late, ended⟩ := two { state with diag := middle } early.reliable
  refine ⟨diag, early.trans late, ?_⟩
  simp only [Bind.bind, EStateM.bind, ran, ended]

theorem says_say (text : String) : Says (say text) text 0 := by
  intro state reliable
  refine ⟨(state.diag.writeText text).1, Sink.heard_writeText reliable text, ?_⟩
  have written : state.diag.writeText text = ((state.diag.writeText text).1, none) :=
    Prod.ext rfl (reliable.write_none _)
  unfold say
  rw [written]

theorem says_flushDiag : Says flushDiag "" 1 := by
  intro state reliable
  refine ⟨state.diag.flush.1, Sink.heard_flush reliable, ?_⟩
  have flushed : state.diag.flush = (state.diag.flush.1, none) :=
    Prod.ext rfl reliable.flush_none
  unfold flushDiag
  rw [flushed]

theorem says_note {event : State → Event}
    (hidden : ∀ state, Level.warn.shows (event state).level = false) :
    Says (note .warn event) "" 0 := by
  intro state reliable
  refine ⟨state.diag, .refl reliable, ?_⟩
  unfold note
  rw [Sink.note_of_hidden (hidden state)]

end Walk

def markers (count : Nat) : String := String.ofList (List.replicate count '.')

theorem markers_add (count more : Nat) :
    markers (count + more) = markers count ++ markers more := by
  simp [markers, ← List.replicate_append_replicate]

/-- Markers are counted out over the ordinals, the first of which never has one. -/
theorem Options.marks_toNat (options : Options) (ordinal : Nat) :
    (ordinal - 1) / options.markEvery + (options.marks ordinal).toNat =
      ordinal / options.markEvery := by
  cases ordinal with
  | zero => simp [Options.marks]
  | succ before =>
    rw [Nat.add_sub_cancel, Nat.succ_div]
    simp only [Options.marks, Nat.dvd_iff_mod_eq_zero]
    by_cases multiple : (before + 1) % options.markEvery = 0 <;> simp [multiple]

/-- What is said about the document at the first ordinal, once it is fetched. -/
def firstText (source : Source) (options : Options) : String :=
  match source.fetch 0 with
  | .ok document => if options.showFirst then documentText document else ""
  | .error _ => ""

/-- What a walk says before the visit of an ordinal. -/
def saidBefore (source : Source) (options : Options) (ordinal : Nat) : String :=
  (if ordinal = 0 then "" else firstText source options) ++
    markers ((ordinal - 1) / options.markEvery)

/-- What a walk says that comes to an end in the visit of an ordinal. -/
def saidWithin (source : Source) (options : Options) (ordinal : Nat) : String :=
  firstText source options ++ markers ((ordinal - 1) / options.markEvery)

variable {source : Source} {options : Options} {start : Sink}

theorem saidBefore_of_error {ordinal : Nat} {error : Error}
    (failed : source.fetch ordinal = .error error) :
    saidBefore source options ordinal = saidWithin source options ordinal := by
  by_cases first : ordinal = 0
  · subst first
    simp [saidBefore, saidWithin, firstText, failed]
  · simp [saidBefore, saidWithin, first]

theorem saidBefore_append {ordinal : Nat} {document : Document}
    (loud : options.quiet = false) (fetched : source.fetch ordinal = .ok document) :
    saidBefore source options ordinal ++
        (if options.shows ordinal then documentText document else "") =
      saidWithin source options ordinal := by
  by_cases first : ordinal = 0
  · subst first
    simp [saidBefore, saidWithin, firstText, fetched, Options.shows, loud, markers]
  · simp [saidBefore, saidWithin, first, Options.shows]

theorem saidWithin_append (ordinal : Nat) :
    saidWithin source options ordinal ++ markers (options.marks ordinal).toNat =
      saidBefore source options (ordinal + 1) := by
  rw [saidWithin, saidBefore, if_neg (Nat.succ_ne_zero _), String.append_assoc, ← markers_add,
    options.marks_toNat, Nat.add_sub_cancel]

namespace Walk

theorem says_announce (loud : options.quiet = false) (text : String) :
    Says (announce options text) text 0 := by
  unfold announce
  rw [loud]
  exact says_say text

theorem says_dump (options : Options) (ordinal : Nat) (document : Document) :
    Says (dump options ordinal document)
      (if options.shows ordinal then documentText document else "") 0 := by
  unfold dump
  cases options.shows ordinal with
  | true => exact says_say _
  | false => exact says_pure

theorem says_mark (loud : options.quiet = false) (ordinal : Nat) :
    Says (mark options .warn ordinal) (markers (options.marks ordinal).toNat)
      (options.marks ordinal).toNat := by
  unfold mark
  rw [loud]
  cases options.marks ordinal with
  | true =>
    have marker : Says (do say progressMarker; flushDiag) (progressMarker ++ "") (0 + 1) :=
      (says_say _).bind says_flushDiag
    have noted : Says (note .warn fun state => progressEvent ordinal state.matched) "" 0 :=
      says_note fun _ => rfl
    have marked : Says (do
        note .warn fun state => progressEvent ordinal state.matched
        say progressMarker
        flushDiag) ("" ++ (progressMarker ++ "")) (0 + (0 + 1)) := noted.bind marker
    exact marked
  | false => exact says_pure

theorem emit_aside (options : Options) (document : Document) (state : State) :
    (lastState (emit options document state)).fetched = state.fetched ∧
      (lastState (emit options document state)).diag = state.diag := by
  unfold emit
  cases options.match? document with
  | none => exact ⟨rfl, rfl⟩
  | some coordinate =>
    simp only [print]
    rcases state.out.writeTexts coordinate.linePieces with ⟨out, _ | fault⟩ <;> exact ⟨rfl, rfl⟩

/-- Where a walk stands that says everything to `start`, if it stands before an ordinal. -/
structure Reached (source : Source) (options : Options) (start : Sink) (ordinal : Nat)
    (state : State) : Prop where
  fetched : state.fetched = ordinal
  heard : Sink.Heard start (saidBefore source options ordinal)
    ((ordinal - 1) / options.markEvery) state.diag

/-- Where a walk stands that came to an end in the visit of an ordinal. -/
structure Ended (source : Source) (options : Options) (start : Sink) (ordinal : Nat)
    (state : State) : Prop where
  fetched : state.fetched = ordinal + 1
  heard : Sink.Heard start (saidWithin source options ordinal)
    ((ordinal - 1) / options.markEvery) state.diag

theorem visit_said (loud : options.quiet = false) {ordinal : Nat} {state : State}
    (reached : Reached source options start ordinal state) :
    match visit source options .warn ordinal state with
    | .ok _ next => Reached source options start (ordinal + 1) next
    | .error _ last => Ended source options start ordinal last := by
  have heard := reached.heard
  cases fetch : source.fetch ordinal with
  | error error =>
    simp only [visit, bind, EStateM.bind, Walk.fetch, fetch]
    exact ⟨congrArg (· + 1) reached.fetched, saidBefore_of_error fetch ▸ heard⟩
  | ok document =>
    obtain ⟨shown, told, dumped⟩ := says_dump options ordinal document
      { state with fetched := state.fetched + 1, scanned := state.scanned + 1 } heard.reliable
    have within := heard.trans told
    rw [saidBefore_append loud fetch, Nat.add_zero] at within
    -- Whether the write of a match fails or not, what was said up to it stands.
    obtain ⟨fetched, kept⟩ := emit_aside options document
      ⟨state.fetched + 1, state.scanned + 1, state.matched, state.out, shown⟩
    simp only [visit, bind, EStateM.bind, Walk.fetch, fetch, dumped]
    generalize emit options document
      ⟨state.fetched + 1, state.scanned + 1, state.matched, state.out, shown⟩ = emitted
      at fetched kept
    rw [reached.fetched] at fetched
    cases emitted with
    | error stop last => exact ⟨fetched, kept ▸ within⟩
    | ok _ written =>
      simp only [lastState] at fetched kept
      rw [← kept] at within
      obtain ⟨marked, more, done⟩ := says_mark loud ordinal written within.reliable
      have further := within.trans more
      rw [saidWithin_append, options.marks_toNat] at further
      simp only [done]
      exact ⟨fetched, further⟩

theorem visitAll_said (loud : options.quiet = false) (count : Nat) {ordinal : Nat} {state : State}
    (reached : Reached source options start ordinal state) :
    match visitAll source options .warn ordinal count state with
    | .ok _ last => Reached source options start (ordinal + count) last
    | .error _ last => ∃ stopped, Ended source options start stopped last := by
  induction count generalizing ordinal state with
  | zero => exact reached
  | succ count ih =>
    have visited := visit_said loud reached
    simp only [visitAll, bind, EStateM.bind]
    cases ended : visit source options .warn ordinal state with
    | error stop last =>
      simp only [ended] at visited ⊢
      exact ⟨ordinal, visited⟩
    | ok _ next =>
      simp only [ended] at visited ⊢
      have rest := ih visited
      rwa [Nat.add_right_comm, Nat.add_assoc ordinal] at rest

end Walk

theorem closed_diag (state : State) (total : Nat) :
    (state.closed total .warn).diag = state.diag := by
  have hidden : Level.warn.shows (closedEvent state.scanned state.matched).level = false := rfl
  exact Sink.note_of_hidden hidden state.diag

theorem completed_heard (source : Source) (state : State) (loud : options.quiet = false)
    (reliable : state.diag.Reliable) :
    Sink.Heard state.diag completionText 1 (state.completed source options .warn).diag := by
  have noted : Walk.Says (Walk.note .warn fun _ =>
      finishedEvent source.location source.total state.scanned state.matched) "" 0 :=
    Walk.says_note fun _ => rfl
  have finishing : Walk.Says (do
      Walk.announce options completionText
      Walk.flushDiag
      Walk.note .warn fun _ =>
        finishedEvent source.location source.total state.scanned state.matched)
      (completionText ++ ("" ++ "")) (0 + (1 + 0)) :=
    (Walk.says_announce loud _).bind (Walk.says_flushDiag.bind noted)
  obtain ⟨diag, heard, finished⟩ := finishing state reliable
  simp only [State.completed, State.report]
  rw [finished]
  exact heard

theorem settled_heard (source : Source) {state : State} (loud : options.quiet = false)
    (outputGone : Bool) (reliable : state.diag.Reliable) :
    Sink.Heard state.diag
      (if outputGone = false ∧ state.out.flush.2 = none then completionText else "")
      (if outputGone = false ∧ state.out.flush.2 = none then 1 else 0)
      (state.settled source options .warn outputGone).diag := by
  unfold State.settled
  rcases state.out.flush with ⟨out, _ | fault⟩
  · cases outputGone with
    | true =>
      simp only [Bool.true_eq_false, false_and, if_false, if_true, closed_diag]
      exact .refl reliable
    | false =>
      simp only [true_and, if_true, Bool.false_eq_true, if_false]
      exact completed_heard source { state with out } loud reliable
  · simp only [reduceCtorEq, and_false, if_false]
    split
    next =>
      rw [closed_diag]
      exact .refl reliable
    next => exact .refl reliable

/-- As many ordinals get through before a scan is done or comes to an end. -/
structure Processed (source : Source) (options : Options) (out : Sink) (count : Nat) : Prop where
  le : count ≤ source.total
  passes : ∀ ordinal < count, Passes source options out ordinal
  last : count < source.total → ¬Passes source options out count

theorem Processed.unique {out : Sink} {count other : Nat} (one : Processed source options out count)
    (two : Processed source options out other) : count = other := by
  rcases Nat.lt_trichotomy count other with before | same | after
  · exact absurd (two.passes count before) (one.last (Nat.lt_of_lt_of_le before two.le))
  · exact same
  · exact absurd (one.passes other after) (two.last (Nat.lt_of_lt_of_le after one.le))

theorem processed_of_firstTrouble? (source : Source) (options : Options) (out : Sink) :
    Processed source options out
      ((firstTrouble? source options out).elim source.total (·.1)) := by
  cases first : firstTrouble? source options out with
  | none =>
    exact ⟨Nat.le_refl _, firstTrouble?_eq_none first, fun lt => absurd lt (Nat.lt_irrefl _)⟩
  | some met =>
    obtain ⟨ordinal, trouble⟩ := met
    obtain ⟨below, here, earlier⟩ := firstTrouble?_eq_some first
    refine ⟨Nat.le_of_lt below, earlier, fun _ passes => ?_⟩
    simp only [Option.elim_some, ← troubleAt?_eq_none_iff, here] at passes
    contradiction

def fieldLine (field : Field) : String :=
  "Name: " ++ field.name ++ " | Value: " ++ field.value.shown

/-- The lines that show a document: its stored values in order, between a header and a footer. -/
def documentLines (document : Document) : List String :=
  ("--- DEBUG: Fields in Document " ++ toString document.ordinal ++ " ---") ::
    document.fields.map fieldLine ++ ["-----------------------------------"]

def headLines (source : Source) (options : Options) : List String :=
  ("Total documents to scan: " ++ toString source.total) ::
    match source.fetch 0 with
    | .ok document =>
      if options.showFirst = true ∧ 0 < source.total then documentLines document else []
    | .error _ => []

theorem documentText_eq (document : Document) :
    documentText document = String.join ((documentLines document).map (· ++ "\n")) := by
  have fields : fieldText = fun field => fieldLine field ++ "\n" := rfl
  have header (rest : String) : " ---\n" ++ rest = " ---" ++ ("\n" ++ rest) := by
    rw [← String.append_assoc]
    simp only [String.reduceAppend]
  have footer : "-----------------------------------\n" =
      "-----------------------------------" ++ "\n" := by simp only [String.reduceAppend]
  unfold documentText documentLines
  simp only [List.map_append, List.map_cons, List.map_nil, List.map_map, Function.comp_def,
    List.cons_append, String.join_cons, String.join_append, String.join_nil, String.append_assoc,
    String.append_empty, fields, header, footer]

theorem headLines_eq (source : Source) (options : Options) :
    String.join ((headLines source options).map (· ++ "\n")) =
      totalText source.total ++ (if source.total = 0 then "" else firstText source options) := by
  have total : totalText source.total =
      ("Total documents to scan: " ++ toString source.total) ++ "\n" := rfl
  unfold headLines firstText
  rw [List.map_cons, String.join_cons, total]
  congr 1
  cases source.fetch 0 with
  | error => simp
  | ok document =>
    by_cases empty : source.total = 0
    · simp [empty]
    · cases options.showFirst with
      | true =>
        simp only [Nat.pos_of_ne_zero empty, empty, and_self, if_true, if_false, documentText_eq]
      | false => simp

theorem conclude_error_heard (source : Source) {state : State} (loud : options.quiet = false)
    (stop : Stop) (reliable : state.diag.Reliable) :
    Sink.Heard state.diag "" 0 (conclude source options .warn (.error stop state)).diag := by
  cases stop with
  | failed error => exact .refl reliable
  | outputGone =>
    have settled := settled_heard source loud true reliable
    simp only [Bool.true_eq_false, false_and, if_false] at settled
    exact settled

/-- A scan says the same head whatever happens, and the rest as far as it got. -/
theorem run_heard (source : Source) (out : Sink) {diag : Sink} (valid : 0 < options.markEvery)
    (loud : options.quiet = false) (reliable : diag.Reliable) {count : Nat}
    (processed : Processed source options out count) :
    let marks := (count - 1) / options.markEvery
    let finished := count = source.total ∧ out.flush.2 = none
    Sink.Heard diag
      (String.join ((headLines source options).map (· ++ "\n")) ++ markers marks ++
        if finished then completionText else "")
      (marks + if finished then 1 else 0) (run source options out diag .warn).diag := by
  obtain rfl := processed.unique (processed_of_firstTrouble? source options out)
  have accepted : options.ensureValid = .ok () := if_neg (Nat.ne_of_gt valid)
  obtain ⟨heard, announced, said⟩ :=
    Walk.says_announce loud (totalText source.total) { out, diag } reliable
  have ran : run source options out diag .warn = conclude source options .warn
      (Walk.visitAll source options .warn 0 source.total { out, diag := heard }) := by
    simp only [run, accepted, said]
  have standing : Walk.Reached source options heard 0 { out, diag := heard } :=
    ⟨rfl, by simpa [saidBefore, markers] using Sink.Heard.refl announced.reliable⟩
  have spoke := Walk.visitAll_said loud source.total standing
  have walked := visitAll_spec .warn source.total
    (start_progress source options out announced.reliable)
  have same := firstTrouble?_eq_from source options out
  dsimp only
  rw [headLines_eq, ran]
  cases first : firstTroubleFrom? source options out 0 source.total with
  | none =>
    simp only [first] at walked
    obtain ⟨last, done, progress⟩ := walked
    simp only [done, Nat.zero_add] at spoke
    have settled := settled_heard source loud false spoke.heard.reliable
    have whole := (announced.trans spoke.heard).trans settled
    rw [progress.grown.flush_fault] at whole
    simp only [done, same, first, Option.elim_none, true_and, saidBefore, Nat.zero_add,
      String.append_assoc] at whole ⊢
    exact whole
  | some met =>
    obtain ⟨ordinal, trouble⟩ := met
    have below := (firstTrouble?_eq_some (same.trans first)).1
    simp only [first] at walked
    obtain ⟨last, failed, halted⟩ := walked
    simp only [failed] at spoke
    obtain ⟨stopped, ended⟩ := spoke
    obtain rfl : stopped = ordinal := Nat.succ.inj (ended.fetched.symm.trans halted.fetched)
    have silent := conclude_error_heard source loud (trouble.stop out) ended.heard.reliable
    have whole := (announced.trans ended.heard).trans silent
    simp only [failed, same, first, Option.elim_some, Nat.ne_of_lt below,
      Nat.ne_of_gt (Nat.zero_lt_of_lt below), saidWithin, false_and, if_false, Nat.zero_add,
      String.append_assoc] at whole ⊢
    exact whole

/-- The layout of what a scan says: a head of whole lines, a marker whenever so many more ordinals
are processed, and a last line only if all of them are and the output was flushed. The stream is
flushed behind every marker and behind the last line. -/
theorem diag_run (source : Source) (options : Options) (out diag : Sink)
    (valid : 0 < options.markEvery) (loud : options.quiet = false) (reliable : diag.Reliable) :
    (∃ count, Processed source options out count) ∧
    ∀ count, Processed source options out count →
      let ended := run source options out diag .warn
      let marks := (count - 1) / options.markEvery
      let finished := count = source.total ∧ out.flush.2 = none
      ended.diag.stored = diag.stored ++ Text.utf8
        (String.join ((headLines source options).map (· ++ "\n")) ++
          String.ofList (List.replicate marks '.') ++ (if finished then "\nDone.\n" else "")) ∧
      ended.diag.flushes = diag.flushes + (marks + if finished then 1 else 0) := by
  refine ⟨⟨_, processed_of_firstTrouble? source options out⟩, fun count processed => ?_⟩
  have heard := run_heard source out valid loud reliable processed
  exact ⟨heard.stored, heard.flushes⟩

/-- The fourth document cannot be read, which leaves two markers and no last line. -/
theorem diag_run_unreadable :
    let source := (Source.ofDocuments "central" releases).failingAt 3 "bad block"
    let options : Options := { showFirst := true, markEvery := 1 }
    0 < options.markEvery ∧ options.quiet = false ∧ ({} : Sink).Reliable ∧
      Processed source options {} 3 ∧
      (run source options {} {} .warn).diag.stored = Text.utf8
        ("Total documents to scan: 4\n--- DEBUG: Fields in Document 0 ---\n" ++
          "Name: g | Value: org.apache.maven\nName: a | Value: maven-core\n" ++
          "-----------------------------------\n..") ∧
      (run source options {} {} .warn).diag.flushes = 2 := by
  intro source options
  have processed := processed_of_firstTrouble? source options {}
  have first : (firstTrouble? source options {}).map (·.1) = some 3 := by decide +kernel
  obtain ⟨met, found, three⟩ := Option.map_eq_some_iff.1 first
  rw [found, Option.elim_some, three] at processed
  obtain ⟨stored, flushes⟩ :=
    (diag_run source options {} {} (by decide) rfl ⟨rfl, rfl⟩).2 3 processed
  refine ⟨by decide, rfl, ⟨rfl, rfl⟩, processed, ?_, ?_⟩
  · exact stored.trans (by decide +kernel)
  · exact flushes.trans (by decide +kernel)

end Scan
end ArtifactGroups
