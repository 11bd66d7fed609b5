import ArtifactGroups.Program.Tool
import ArtifactGroups.Proofs.Buffer
import ArtifactGroups.Proofs.Scan.Outcome

/-! What a program run leaves behind. Without arguments to work on it depends on them alone. With
them it gives the bytes of the work: those behind the buffer are the bytes that were written into
it, and the work on an alias file logs nothing that is shown unless more is asked for. A failure
adds one line to the standard error and decides the status, and does nothing else. -/
namespace ArtifactGroups

namespace AliasFile

/-- No event so far is shown unless more is asked for. -/
def Muted (state : State) : Prop :=
  ∀ event ∈ state.events, Level.warn.shows event.level = false

namespace Work

/-- The work keeps a state muted, whether it gets through or fails. -/
def Mute {α : Type} (work : Work α) : Prop :=
  ∀ state, Muted state →
    match work state with
    | .ok _ next => Muted next
    | .error _ last => Muted last

variable {α β : Type}

theorem mute_pure (answer : α) : Mute (pure answer) := fun _ muted => muted

theorem Mute.bind {first : Work α} {next : α → Work β} (one : Mute first)
    (two : ∀ answer, Mute (next answer)) : Mute (first >>= next) := by
  intro state muted
  have early := one state muted
  simp only [Bind.bind, EStateM.bind]
  cases ran : first state with
  | ok answer middle =>
    rw [ran] at early
    exact two answer middle early
  | error failure last =>
    rw [ran] at early
    exact early

theorem mute_say (text : String) : Mute (say text) := by
  intro state muted
  unfold say
  rcases state.status.writeText text with ⟨status, _ | fault⟩ <;> exact muted

theorem mute_log {events : List Event}
    (hidden : ∀ event ∈ events, Level.warn.shows event.level = false) : Mute (log events) := by
  intro state muted event member
  rcases List.mem_append.1 member with before | now
  · exact muted event before
  · exact hidden event now

theorem mute_openInput (path : String) (standardInput : Alias.Input) :
    Mute (openInput path standardInput) := by
  intro state muted
  unfold openInput
  by_cases standard : CommandLine.isStandardInput path
  · rw [if_pos standard]
    exact muted
  · rw [if_neg standard]
    rcases state.volume.read path with fault | fault | bytes <;> exact muted

theorem level_skipEvent {line : String} {event : Event}
    (skipped : Alias.Ledger.skipEvent? line = some event) : event.level = .debug := by
  unfold Alias.Ledger.skipEvent? at skipped
  split at skipped
  next =>
    obtain rfl := Option.some.inj skipped
    rfl
  next => contradiction

theorem mute_build (input : Alias.Input) : Mute (build input) := by
  have skipped : ∀ event ∈ input.lines.1.filterMap Alias.Ledger.skipEvent?,
      Level.warn.shows event.level = false := by
    intro event member
    obtain ⟨line, -, found⟩ := List.mem_filterMap.1 member
    rw [level_skipEvent found]
    rfl
  refine (mute_log skipped).bind fun _ => ?_
  rcases ({} : Alias.Ledger).read input with ⟨ledger, _ | error⟩
  · have finished : ∀ event ∈ [ledger.finishedEvent], Level.warn.shows event.level = false := by
      intro event member
      rw [List.mem_singleton.1 member]
      rfl
    exact (mute_log finished).bind fun _ => mute_pure ledger
  · exact fun _ muted => muted

theorem mute_save (path : String) (table : Alias.Table) : Mute (save path table) := by
  intro state muted
  unfold save
  rcases state.volume.fileToCreate path with fault | place <;> exact muted

theorem mute_run (standardInput : Alias.Input) (input output : String) :
    Mute (run standardInput input output) :=
  (mute_say _).bind fun _ =>
    (mute_openInput input standardInput).bind fun lines =>
      (mute_build lines).bind fun ledger =>
        (mute_say _).bind fun _ =>
          (mute_save output ledger.table).bind fun _ =>
            (mute_say _).bind fun _ => mute_pure _

end Work

end AliasFile

theorem Volume.muted_makeAliases (volume : Volume) (standardInput : Alias.Input)
    (input output : String) (status : Sink) :
    AliasFile.Muted (volume.makeAliases standardInput input output status).state := by
  have start : AliasFile.Muted { status, volume } := fun event member => by cases member
  have ended := AliasFile.Work.mute_run standardInput input output { status, volume } start
  unfold makeAliases
  cases ran : AliasFile.Work.run standardInput input output { status, volume } with
  | ok made state =>
    rw [ran] at ended
    exact ended
  | error failure state =>
    rw [ran] at ended
    exact ended

theorem Sink.foldl_note_of_hidden {level : Level} {events : List Event}
    (hidden : ∀ event ∈ events, level.shows event.level = false) (sink : Sink) :
    events.foldl (·.note level ·) sink = sink := by
  induction events with
  | nil => rfl
  | cons event rest ih =>
    rw [List.foldl_cons, note_of_hidden (hidden event List.mem_cons_self)]
    exact ih fun other member => hidden other (List.mem_cons_of_mem _ member)

theorem Volume.reliable_dump (volume : Volume) (path : String) (options : Scan.Options)
    (out : Sink) {diag : Sink} (level : Level) (library : Index.Library)
    (reliable : diag.Reliable) :
    (volume.dump path options out diag level library).diag.Reliable := by
  unfold dump
  cases options.ensureValid with
  | error error => exact reliable
  | ok =>
    have opening : ∃ after, (if options.quiet then (diag, none)
        else diag.writeText (Scan.openingText path)) = (after, none) ∧ after.Reliable := by
      cases options.quiet with
      | true => exact ⟨diag, rfl, reliable⟩
      | false => exact ⟨_, Prod.ext rfl (reliable.write_none _), reliable.write _⟩
    obtain ⟨after, announced, still⟩ := opening
    simp only [announced]
    cases volume.openIndex path library with
    | error error => exact still
    | ok snapshot => exact Scan.reliable_run _ _ _ _ (still.note level _)

def failureLine {α : Type} : Except Failure α → Bytes
  | .ok _ => []
  | .error failure => Text.utf8 ("Error: " ++ failure.chain ++ "\n")

/-- The status follows the result, and a failure ends the standard error with one more line. -/
structure Exit.Reports {α : Type} (exit : Exit) (result : Except Failure α) (told : Bytes) :
    Prop where
  success : exit.code = 0 ↔ ∃ answer, result = .ok answer
  code : exit.code = 0 ∨ exit.code = 1
  stderr : exit.stderr = told ++ failureLine result

namespace Tool

theorem finished_spec {α : Type} (result : Except Failure α) (stdout : Sink) {stderr : Sink}
    (volume : Volume) (reliable : stderr.Reliable) :
    (finished result stdout stderr volume).volume = volume ∧
      (finished result stdout stderr volume).stdout = stdout.stored ∧
      (finished result stdout stderr volume).Reports result stderr.stored := by
  cases result with
  | ok answer =>
    refine ⟨rfl, rfl, ?_, .inl rfl, ?_⟩
    · exact ⟨fun _ => ⟨answer, rfl⟩, fun _ => rfl⟩
    · exact (List.append_nil _).symm
  | error failure =>
    refine ⟨rfl, rfl, ?_, .inr rfl, ?_⟩
    · refine ⟨fun zero => absurd zero Nat.one_ne_zero, ?_⟩
      rintro ⟨answer, same⟩
      contradiction
    · have whole := reliable.fits (Text.utf8 ("Error: " ++ failure.chain ++ "\n"))
      unfold finished
      dsimp only
      rw [Sink.writeText, Sink.stored_write, whole, List.take_length, failureLine]

theorem stopped_spec (tool : Tool) (volume : Volume) (libraries : Libraries)
    (stop : CommandLine.Stop) :
    let exit := tool.stopped volume libraries stop
    exit.volume = volume ∧
      (∀ other, tool.stopped other libraries stop = { exit with volume := other }) ∧
      match stop with
      | .usage error => exit.code = 1 ∧ exit.stdout = [] ∧
          exit.stderr = Text.utf8 (error.message ++ "\n" ++ libraries.usageText tool error)
      | .help => exit.code = 0
      | .version => exit.code = 0 := by
  cases stop <;> exact ⟨rfl, fun _ => rfl, by simp [stopped, failureCode]⟩

theorem run_of_stop {tool : Tool} {arguments : List String} {stop : CommandLine.Stop}
    (parsed : tool.command.parse arguments = .error stop) (volume : Volume)
    (standardInput : Alias.Input) (libraries : Libraries) :
    tool.run arguments volume standardInput libraries = tool.stopped volume libraries stop := by
  cases tool with
  | indexDump =>
    simp only [command] at parsed
    simp only [run, runIndexDump, CommandLine.DumpArguments.parse, parsed, Except.map]
  | aliasGen =>
    simp only [command] at parsed
    simp only [run, runAliasGen, CommandLine.AliasArguments.parse, parsed, Except.map]

section

open CommandLine

variable {arguments : List String} {settings : Settings}

theorem runIndexDump_spec (parsed : Tool.indexDump.command.parse arguments = .ok settings)
    (quietly : settings.count verboseFlag.long = 0) (volume : Volume) (libraries : Libraries) :
    let asked := DumpArguments.ofSettings settings
    let work := volume.dump asked.index asked.options {} {} .warn libraries.index
    let exit := runIndexDump arguments volume libraries
    exit.volume = volume ∧ exit.stdout = work.out.stored ∧
      exit.Reports work.result work.diag.stored := by
  intro asked work exit
  have level : asked.level = .warn := congrArg Level.ofCount quietly
  simp only [command] at parsed
  have asks : DumpArguments.parse arguments = .ok asked := by
    rw [DumpArguments.parse, parsed, Except.map]
  have ended : exit =
      finished work.result (Buffer.relay work.out.history.reverse) work.diag volume := by
    simp only [exit, runIndexDump, asks, level, work]
  have reliable : work.diag.Reliable := volume.reliable_dump _ _ _ _ _ ⟨rfl, rfl⟩
  obtain ⟨same, out, reports⟩ :=
    finished_spec work.result (Buffer.relay work.out.history.reverse) volume reliable
  rw [ended]
  exact ⟨same, out.trans (Buffer.stored_relay _), reports⟩

theorem runAliasGen_spec (parsed : Tool.aliasGen.command.parse arguments = .ok settings)
    (quietly : settings.count verboseFlag.long = 0) (volume : Volume)
    (standardInput : Alias.Input) (libraries : Libraries) :
    let asked := AliasArguments.ofSettings settings
    let work := volume.makeAliases standardInput asked.input asked.output {}
    let exit := runAliasGen arguments volume standardInput libraries
    exit.volume = work.state.volume ∧ exit.stdout = work.state.status.stored ∧
      exit.Reports work.result [] := by
  intro asked work exit
  have level : asked.level = .warn := congrArg Level.ofCount quietly
  simp only [command] at parsed
  have asks : AliasArguments.parse arguments = .ok asked := by
    rw [AliasArguments.parse, parsed, Except.map]
  have muted := volume.muted_makeAliases standardInput asked.input asked.output {}
  have ended : exit = finished work.result work.state.status {} work.state.volume := by
    simp only [exit, runAliasGen, asks, level, work, Sink.foldl_note_of_hidden muted]
  rw [ended]
  exact finished_spec work.result work.state.status work.state.volume ⟨rfl, rfl⟩

/-- How a program ends that is not asked to log more. If its arguments give it nothing to do, it
touches no file and reads none; a usage error is told on the standard error alone. Else the
outputs are those of the work, the status says whether that succeeded, and the files are as the
work left them. -/
theorem run_exit (tool : Tool) (arguments : List String) (volume : Volume)
    (standardInput : Alias.Input) (libraries : Libraries) :
    let exit := tool.run arguments volume standardInput libraries
    match tool.command.parse arguments with
    | .error stop =>
      exit.volume = volume ∧
      (∀ other otherInput,
        tool.run arguments other otherInput libraries = { exit with volume := other }) ∧
      match stop with
      | .usage error => exit.code = 1 ∧ exit.stdout = [] ∧
          exit.stderr = Text.utf8 (error.message ++ "\n" ++ libraries.usageText tool error)
      | .help => exit.code = 0
      | .version => exit.code = 0
    | .ok settings =>
      settings.count verboseFlag.long = 0 →
      match tool with
      | .indexDump =>
        let asked := DumpArguments.ofSettings settings
        let work := volume.dump asked.index asked.options {} {} .warn libraries.index
        exit.volume = volume ∧ exit.stdout = work.out.stored ∧
          exit.Reports work.result work.diag.stored
      | .aliasGen =>
        let asked := AliasArguments.ofSettings settings
        let work := volume.makeAliases standardInput asked.input asked.output {}
        exit.volume = work.state.volume ∧ exit.stdout = work.state.status.stored ∧
          exit.Reports work.result [] := by
  intro exit
  cases parsed : tool.command.parse arguments with
  | error stop =>
    obtain ⟨same, alone, told⟩ := tool.stopped_spec volume libraries stop
    have ended : exit = tool.stopped volume libraries stop :=
      run_of_stop parsed volume standardInput libraries
    rw [ended]
    refine ⟨same, fun other otherInput => ?_, told⟩
    rw [run_of_stop parsed, alone]
  | ok settings =>
    intro quietly
    cases tool with
    | indexDump => exact runIndexDump_spec parsed quietly volume libraries
    | aliasGen => exact runAliasGen_spec parsed quietly volume standardInput libraries

/-- The second document is damaged: the match before it is on the standard output. -/
theorem run_exit_damaged_index :
    let searcher : Index.Searcher := {
      names := ["g", "a", "u"]
      sizes := [2]
      document := fun address =>
        if address.position = 0 then .ok [("u", .text "org.apache|commons-io")]
        else .error "checksum mismatch" }
    let libraries : Libraries :=
      { index := { Index.Library.observed with attach := fun _ => .ok searcher } }
    let volume : Volume := { entries := [
      (["home", "idx"], .directory), (["home", "idx", "meta.json"], .file [])] }
    let settings : Settings :=
      [("no-debug-dump", .present), ("INDEX_DIR", .text "idx")]
    let exit := Tool.indexDump.run ["--no-debug-dump", "idx"] volume { bytes := [] } libraries
    Tool.indexDump.command.parse ["--no-debug-dump", "idx"] = .ok settings ∧
      settings.count verboseFlag.long = 0 ∧
      exit.code = 1 ∧ exit.volume = volume ∧
      exit.stdout = Text.utf8 "org.apache|commons-io\n" ∧
      ∃ reason, exit.stderr = Text.utf8 ("Opening index at: idx\nTotal documents to scan: 2\n" ++
        "Error: scanning idx: Failed to read document 1: " ++ reason ++ "\n") := by
  intro searcher libraries volume settings exit
  have parsed : Tool.indexDump.command.parse ["--no-debug-dump", "idx"] = .ok settings := rfl
  have quietly : settings.count verboseFlag.long = 0 := by decide +kernel
  have spec := run_exit .indexDump ["--no-debug-dump", "idx"] volume { bytes := [] } libraries
  simp only [parsed] at spec
  obtain ⟨same, stdout, reports⟩ := spec quietly
  let asked := DumpArguments.ofSettings settings
  let work := volume.dump asked.index asked.options {} {} .warn libraries.index
  have failed : work.result.toOption = none := by decide +kernel
  refine ⟨parsed, quietly, reports.code.resolve_left fun zero => ?_, same, ?_,
    "checksum mismatch", ?_⟩
  · obtain ⟨report, ok⟩ := reports.success.1 zero
    have found : some report = none := (congrArg Except.toOption ok).symm.trans failed
    contradiction
  · exact stdout.trans (by decide +kernel)
  · exact reports.stderr.trans (by decide +kernel)

end

end Tool

end ArtifactGroups
