import ArtifactGroups.Program.Aliases
import ArtifactGroups.Proofs.Alias.Input
import ArtifactGroups.Proofs.Alias.Json.RoundTrip
import ArtifactGroups.Proofs.Volume

/-! Making an alias file takes six steps in a fixed order, each of which may fail. The output is
created by the last step but one, from a table that is complete by then: it is written as a whole,
or a step before failed and no file was touched. -/
namespace ArtifactGroups.AliasFile

/-- A run that reads a file, with all that it depends on. -/
structure Job where
  volume : Volume
  input : String
  output : String
  status : Sink

inductive Step where
  | announce
  | openInput
  | readInput
  | report
  | create
  | confirm
  deriving DecidableEq

namespace Job

variable (job : Job)

def steps : List Step := [.announce, .openInput, .readInput, .report, .create, .confirm]

/-- What a new ledger becomes by the bytes that the input has before the run. -/
def ledger : Alias.Ledger :=
  match job.volume.read job.input with
  | .ok (.ok bytes) => (({} : Alias.Ledger).read { bytes }).1
  | _ => {}

def readingLine : String := "Reading " ++ job.input ++ "...\n"

def generatedLine : String := "Generated " ++ toString job.ledger.table.size ++ " aliases.\n"

def writtenLine : String := "Written to " ++ job.output ++ "\n"

/-- The status text up to a step, with the line of the step itself. -/
def told : Step → String
  | .announce | .openInput | .readInput => job.readingLine
  | .report | .create => job.readingLine ++ job.generatedLine
  | .confirm => job.readingLine ++ job.generatedLine ++ job.writtenLine

def toldFault? (step : Step) : Option Failure :=
  if job.status.Fits (Text.utf8 (job.told step)) then none
  else some ⟨none, .inr job.status.writeError⟩

def fault? : Step → Option Failure
  | .announce => job.toldFault? .announce
  | .openInput =>
    match job.volume.read job.input with
    | .error fault => some ⟨some ("opening " ++ job.input), .inr (.path fault)⟩
    | .ok _ => none
  | .readInput =>
    match job.volume.read job.input with
    | .ok (.ok bytes) =>
      if ∀ line ∈ Alias.Input.lineBytes bytes, (Text.ofUtf8? line).isSome then none
      else some (.ofError (.io .notUtf8))
    | .ok (.error fault) => some (.ofError (.io (.path fault)))
    | .error _ => none
  | .report => job.toldFault? .report
  | .create =>
    match job.volume.fileToCreate job.output with
    | .error fault => some ⟨some ("creating " ++ job.output), .inr (.path fault)⟩
    | .ok _ => none
  | .confirm => job.toldFault? .confirm

def firstFaultOf? (steps : List Step) : Option (Step × Failure) :=
  steps.findSome? fun step => (job.fault? step).map (step, ·)

/-- The input was read to its end, as it was before the run. -/
def WasRead : Prop :=
  ∃ bytes, job.volume.read job.input = .ok (.ok bytes) ∧
    ({} : Alias.Ledger).read { bytes } = (job.ledger, none)

/-- The output holds the whole table, and no other file was touched. -/
structure Written (after : Volume) : Prop where
  wasRead : job.WasRead
  content : after.read job.output = .ok (.ok (Text.utf8 job.ledger.table.toJson))
  others : ∃ place, job.volume.fileToCreate job.output = .ok place ∧
    ∀ other ≠ place, after.entryAt? other = job.volume.entryAt? other

/-- The run ended in the failure of this step. -/
structure Stopped (step : Step) (state : State) : Prop where
  status : Sink.Grown job.status (job.status.kept (Text.utf8 (job.told step))) state.status
  volume : if step = .confirm then job.Written state.volume else state.volume = job.volume

/-- The status text up to a step was stored whole. -/
structure Told (step : Step) (state : State) : Prop where
  status : Sink.Grown job.status (Text.utf8 (job.told step)) state.status
  fits : job.status.Fits (Text.utf8 (job.told step))

/-- A step that has no fault comes to an answer, and one that has a fault ends the run. -/
def Does {α : Type} (step : Step) (post : α → State → Prop) :
    EStateM.Result Failure State α → Prop := fun ended =>
  match job.fault? step with
  | none => ∃ answer state, ended = .ok answer state ∧ post answer state
  | some failure => ∃ state, ended = .error failure state ∧ job.Stopped step state

/-- How the rest of a run ends, from the steps that it still has to take. -/
def Ends (steps : List Step) : EStateM.Result Failure State (Alias.Table × Alias.Tally) → Prop :=
  fun ended =>
    match job.firstFaultOf? steps with
    | none => ∃ state, ended = .ok (job.ledger.table, job.ledger.tally) state ∧
        job.Told .confirm state ∧ job.Written state.volume
    | some (step, failure) => ∃ state, ended = .error failure state ∧ job.Stopped step state

variable {job}

theorem firstFaultOf?_cons (step : Step) (rest : List Step) :
    job.firstFaultOf? (step :: rest) =
      ((job.fault? step).map (step, ·)).or (job.firstFaultOf? rest) := by
  rw [firstFaultOf?, List.findSome?_cons]
  cases job.fault? step <;> rfl

/-- The first step decides whether there is a rest to look at. -/
theorem Does.bind {α : Type} {step : Step} {rest : List Step} {post : α → State → Prop}
    {first : Work α} {next : α → Work (Alias.Table × Alias.Tally)} {state : State}
    (one : job.Does step post (first state))
    (others : ∀ answer middle, post answer middle → job.Ends rest (next answer middle)) :
    job.Ends (step :: rest) ((first >>= next) state) := by
  unfold Does at one
  unfold Ends
  rw [firstFaultOf?_cons]
  cases fault : job.fault? step with
  | none =>
    simp only [fault] at one
    obtain ⟨answer, middle, ran, holds⟩ := one
    have later := others answer middle holds
    unfold Ends at later
    simpa only [Option.map_none, Option.none_or, Bind.bind, EStateM.bind, ran] using later
  | some failure =>
    simp only [fault] at one
    obtain ⟨last, ran, stopped⟩ := one
    refine ⟨last, ?_, stopped⟩
    simp only [Bind.bind, EStateM.bind, ran]

theorem say_does {step : Step} {sofar text : String} {state : State}
    (line : job.told step = sofar ++ text) (fault : job.fault? step = job.toldFault? step)
    (grown : Sink.Grown job.status (Text.utf8 sofar) state.status)
    (fits : job.status.Fits (Text.utf8 sofar))
    (volume : if step = .confirm then job.Written state.volume else state.volume = job.volume) :
    job.Does step (fun _ next => job.Told step next ∧ next.volume = state.volume)
      (Work.say text state) := by
  have cases := grown.write_cases fits (Text.utf8 text)
  rw [← Text.utf8_append, ← line] at cases
  unfold Does Work.say Sink.writeText
  rw [fault, toldFault?]
  rcases cases with ⟨after, written, room, whole⟩ | ⟨after, written, full, whole⟩
  · rw [if_pos room, written]
    exact ⟨(), _, rfl, ⟨whole, room⟩, rfl⟩
  · rw [if_neg full, written]
    exact ⟨_, rfl, whole, volume⟩

theorem Told.stopped {step earlier : Step} {state : State} (told : job.Told earlier state)
    (same : job.told step = job.told earlier) (volume : state.volume = job.volume)
    (notLast : step ≠ .confirm) : job.Stopped step state := by
  refine ⟨?_, by rwa [if_neg notLast]⟩
  rw [same, Sink.kept_of_fits told.fits]
  exact told.status

/-- What an opened input delivers: the bytes of a file, or for a directory a failure alone. -/
def Delivers (job : Job) (lines : Alias.Input) : Prop :=
  (∃ bytes, job.volume.read job.input = .ok (.ok bytes) ∧ lines = { bytes }) ∨
    ∃ fault, job.volume.read job.input = .ok (.error fault) ∧
      lines = { bytes := [], failure := some (.path fault) }

theorem openInput_does {state : State} (standardInput : Alias.Input)
    (fromFile : CommandLine.isStandardInput job.input = false) (told : job.Told .announce state)
    (volume : state.volume = job.volume) :
    job.Does .openInput (fun lines next => job.Delivers lines ∧ next = state)
      (Work.openInput job.input standardInput state) := by
  unfold Does fault? Work.openInput
  simp only [fromFile, volume]
  cases found : job.volume.read job.input with
  | error fault => exact ⟨state, rfl, told.stopped rfl volume (by simp)⟩
  | ok content =>
    cases content with
    | ok bytes => exact ⟨_, state, rfl, .inl ⟨bytes, found, rfl⟩, rfl⟩
    | error fault => exact ⟨_, state, rfl, .inr ⟨fault, found, rfl⟩, rfl⟩

theorem build_eq (lines : Alias.Input) (state : State) :
    ∃ events, Work.build lines state =
      match ({} : Alias.Ledger).read lines with
      | (_, some error) => .error (.ofError error) { state with events }
      | (ledger, none) => .ok ledger { state with events } := by
  unfold Work.build
  rcases ({} : Alias.Ledger).read lines with ⟨ledger, _ | error⟩ <;> exact ⟨_, rfl⟩

theorem build_does {lines : Alias.Input} {state : State} (delivers : job.Delivers lines)
    (told : job.Told .announce state) (volume : state.volume = job.volume) :
    job.Does .readInput (fun ledger next => ledger = job.ledger ∧ job.WasRead ∧
        job.Told .readInput next ∧ next.volume = job.volume)
      (Work.build lines state) := by
  obtain ⟨events, built⟩ := build_eq lines state
  have later : job.Told .readInput { state with events } := ⟨told.status, told.fits⟩
  rw [built]
  unfold Does fault?
  rcases delivers with ⟨bytes, found, rfl⟩ | ⟨fault, found, rfl⟩
  · simp only [found]
    have ledger : ({} : Alias.Ledger).read { bytes } =
        (job.ledger, ({ bytes } : Alias.Input).lines.2.map .io) := by
      simp only [Job.ledger, found, Alias.Ledger.read]
    rw [Alias.Input.lines_failure] at ledger
    by_cases decodable : ∀ line ∈ Alias.Input.lineBytes bytes, (Text.ofUtf8? line).isSome
    · rw [if_pos decodable] at ledger ⊢
      rw [ledger]
      exact ⟨_, _, rfl, rfl, ⟨bytes, found, ledger⟩, later, volume⟩
    · rw [if_neg decodable] at ledger ⊢
      rw [ledger]
      exact ⟨_, rfl, later.stopped rfl volume (by simp)⟩
  · simp only [found]
    exact ⟨_, rfl, later.stopped rfl volume (by simp)⟩

theorem save_does {state : State} (wasRead : job.WasRead) (told : job.Told .report state)
    (volume : state.volume = job.volume) :
    job.Does .create (fun _ next => job.Written next.volume ∧ job.Told .create next)
      (Work.save job.output job.ledger.table state) := by
  unfold Does fault? Work.save
  rw [volume]
  cases creatable : job.volume.fileToCreate job.output with
  | error fault => exact ⟨state, rfl, told.stopped rfl volume (by simp)⟩
  | ok place =>
    have noDirectory := (Volume.resolve_of_fileToCreate creatable).2
    have content : (job.ledger.table.writeJson {}).1.stored =
        Text.utf8 job.ledger.table.toJson :=
      (job.ledger.table.writeJson_of_reliable ⟨rfl, rfl⟩).2
    refine ⟨(), _, rfl, ⟨wasRead, ?_, place, creatable, fun other apart => ?_⟩, told.status,
      told.fits⟩
    · rw [content]
      exact Volume.read_put creatable _
    · rw [Volume.entryAt?_put noDirectory, if_neg apart]

theorem run_ends (standardInput : Alias.Input)
    (fromFile : CommandLine.isStandardInput job.input = false) :
    job.Ends steps (Work.run standardInput job.input job.output
      { status := job.status, volume := job.volume }) := by
  unfold Work.run
  have line : job.told .announce = "" ++ job.readingLine := by simp [told]
  have nothing : Sink.Grown job.status (Text.utf8 "") job.status := .refl _
  have said : job.Does .announce _ (Work.say job.readingLine ⟨job.status, job.volume, []⟩) :=
    say_does line rfl nothing (Sink.fits_nil _) rfl
  apply said.bind
  rintro ⟨⟩ state ⟨announced, volume⟩
  apply (openInput_does standardInput fromFile announced volume).bind
  rintro lines middle ⟨delivers, rfl⟩
  apply (build_does delivers announced volume).bind
  rintro ledger state ⟨rfl, wasRead, built, volume⟩
  have said : job.Does .report _ (Work.say job.generatedLine state) :=
    say_does rfl rfl built.status built.fits volume
  apply said.bind
  rintro ⟨⟩ state ⟨reported, same⟩
  apply (save_does wasRead reported (same.trans volume)).bind
  rintro ⟨⟩ state ⟨written, created⟩
  have said : job.Does .confirm _ (Work.say job.writtenLine state) :=
    say_does rfl rfl created.status created.fits written
  apply said.bind
  rintro ⟨⟩ state ⟨confirmed, same⟩
  exact ⟨state, rfl, confirmed, same ▸ written⟩

theorem mem_steps (step : Step) : step ∈ steps := by cases step <;> decide

theorem firstFaultOf?_eq_none_iff :
    job.firstFaultOf? steps = none ↔ ∀ step, job.fault? step = none := by
  simp [firstFaultOf?, mem_steps]

theorem fault?_of_first {steps : List Step} {step : Step} {failure : Failure}
    (first : job.firstFaultOf? steps = some (step, failure)) :
    job.fault? step = some failure := by
  obtain ⟨other, -, found⟩ := List.exists_of_findSome?_eq_some first
  obtain ⟨_, fault, same⟩ := Option.map_eq_some_iff.1 found
  obtain ⟨rfl, rfl⟩ := Prod.mk.inj same
  exact fault

theorem fault?_eq_none_of_first {failure : Failure}
    (first : job.firstFaultOf? steps = some (.confirm, failure)) {step : Step}
    (notLast : step ≠ .confirm) : job.fault? step = none := by
  simp [steps, firstFaultOf?_cons, Option.or_eq_some_iff] at first
  cases step <;> simp_all

/-- No file but the output is touched, and the output only if all steps before the last succeed:
then it is the table of the input as it was before. The run succeeds if no step fails, and else ends
in the failure of the first step that does; the status holds the lines up to that step, as far
as there is room for them. -/
theorem makeAliases_all_or_nothing (standardInput : Alias.Input)
    (fromFile : CommandLine.isStandardInput job.input = false) :
    let run := job.volume.makeAliases standardInput job.input job.output job.status
    ((∃ step ≠ Step.confirm, job.fault? step ≠ none) → run.state.volume = job.volume) ∧
    ((∀ step ≠ Step.confirm, job.fault? step = none) → job.Written run.state.volume) ∧
    match job.firstFaultOf? steps with
    | none => run.result = .ok (job.ledger.table, job.ledger.tally) ∧
        run.state.status.stored = job.status.stored ++ Text.utf8 (job.told .confirm)
    | some (step, failure) => run.result = .error failure ∧
        run.state.status.stored =
          job.status.stored ++ job.status.kept (Text.utf8 (job.told step)) := by
  have ended := run_ends standardInput fromFile
  unfold Ends at ended
  unfold Volume.makeAliases
  cases first : job.firstFaultOf? steps with
  | none =>
    have clean := firstFaultOf?_eq_none_iff.1 first
    simp only [first] at ended ⊢
    obtain ⟨state, ran, told, written⟩ := ended
    rw [ran]
    exact ⟨fun ⟨step, _, faulty⟩ => absurd (clean step) faulty, fun _ => written, rfl,
      told.status.stored_eq⟩
  | some found =>
    obtain ⟨step, failure⟩ := found
    simp only [first] at ended ⊢
    obtain ⟨state, ran, stopped⟩ := ended
    have volume := stopped.volume
    rw [ran]
    refine ⟨fun ⟨other, notLast, faulty⟩ => ?_, fun clean => ?_, rfl, stopped.status.stored_eq⟩
    · by_cases last : step = .confirm
      · subst last
        exact absurd (fault?_eq_none_of_first first notLast) faulty
      · rwa [if_neg last] at volume
    · by_cases last : step = .confirm
      · rwa [if_pos last] at volume
      · have fault := fault?_of_first first
        rw [clean step last] at fault
        contradiction

/-- The output is the input file itself, under another path. It is replaced although the last
status line is cut, and left alone if its second line is not UTF-8. -/
theorem makeAliases_all_or_nothing_same_file :
    let place := ["home", "a.txt"]
    let good := Text.utf8 "org.eclipse.jetty|jetty-server\n"
    let job : Job := ⟨{ entries := [(place, .file good)] }, "a.txt", "./a.txt", { room := some 40 }⟩
    let bad : Job := { job with volume.entries := [(place, .file (good ++ [0xFF, 0x0A]))] }
    let run := job.volume.makeAliases { bytes := [] } job.input job.output job.status
    let badRun := bad.volume.makeAliases { bytes := [] } bad.input bad.output bad.status
    CommandLine.isStandardInput job.input = false ∧
      run.state.volume.read job.output = .ok (.ok (Text.utf8
        ("\x7b\n  \"jetty-server\": \"org.eclipse.jetty\",\n" ++
          "  \"spring.boot\": \"org.springframework.boot\"\n\x7d"))) ∧
      run.result = .error ⟨none, .inr (.stream .other "disk full")⟩ ∧
      run.state.status.stored = Text.utf8 "Reading a.txt...\nGenerated 2 aliases.\nWr" ∧
      badRun.state.volume = bad.volume := by
  intro place good job bad run badRun
  have fromFile : CommandLine.isStandardInput job.input = false := by decide +kernel
  have fromFile' : CommandLine.isStandardInput bad.input = false := by decide +kernel
  obtain ⟨-, replaced, ended⟩ := makeAliases_all_or_nothing { bytes := [] } fromFile
  obtain ⟨unchanged, -, -⟩ := makeAliases_all_or_nothing { bytes := [] } fromFile'
  have first : job.firstFaultOf? steps =
      some (.confirm, ⟨none, .inr (.stream .other "disk full")⟩) := by decide +kernel
  have clean (step : Step) : step ≠ .confirm → job.fault? step = none :=
    fault?_eq_none_of_first first
  have faulty : bad.fault? .readInput ≠ none := by decide +kernel
  have text : Text.utf8 job.ledger.table.toJson = Text.utf8
      ("\x7b\n  \"jetty-server\": \"org.eclipse.jetty\",\n" ++
        "  \"spring.boot\": \"org.springframework.boot\"\n\x7d") := by decide +kernel
  have cut : job.status.stored ++ job.status.kept (Text.utf8 (job.told .confirm)) =
      Text.utf8 "Reading a.txt...\nGenerated 2 aliases.\nWr" := by decide +kernel
  simp only [first] at ended
  rw [← text, ← cut]
  exact ⟨fromFile, (replaced clean).content, ended.1, ended.2,
    unchanged ⟨.readInput, by simp, faulty⟩⟩

end Job

end ArtifactGroups.AliasFile
