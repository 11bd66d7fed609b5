import ArtifactGroups.Proofs.CommandLine.Appending
import Mathlib.Data.List.Basic

/-! One request to dump an index, in any order of its parts and in any spelling. The parts together
decide whether the line is accepted and what it comes to. -/
namespace ArtifactGroups.CommandLine

/-- What is asked for. The interval is the text that is given for it, if one is. -/
structure Request where
  index : String
  quiet : Bool
  noFirst : Bool
  interval : Option String
  verbose : Nat
  deriving DecidableEq, Repr

/-- The parts spell the request, in whatever order: what can be given once is given once if it is
asked for, and the flag for more messages as often as it is asked for. -/
structure Spells (parts : List Part) (request : Request) : Prop where
  index : parts.filterMap Part.index? = [request.index]
  path : request.index ≠ "" ∧ Bare request.index
  quiet : (parts.flatMap Part.names).count "quiet" = request.quiet.toNat
  noFirst : (parts.flatMap Part.names).count "no-debug-dump" = request.noFirst.toNat
  interval : parts.filterMap Part.interval? = request.interval.toList
  /-- In an argument of its own, the interval is not taken for a flag. -/
  separate : ∀ text, .interval text false ∈ parts → Bare text
  verbose : (parts.flatMap Part.names).count "verbose" = request.verbose

/-- The interval that a request comes to. -/
def Chosen : Option String → Nat → Prop
  | none, n => n = 5000000
  | some text, n => Numeral text n ∧ 1 ≤ n ∧ n < UInt64.size

def Request.answer (request : Request) (interval : Nat) : DumpArguments where
  index := request.index
  quiet := request.quiet
  showFirst := !request.noFirst
  markEvery := interval
  verbose := min request.verbose 255

namespace Settings

def textOf (name : String) : String × Setting → Option String
  | (other, .text value) => if other = name then some value else none
  | _ => none

def numberOf (name : String) : String × Setting → Option Nat
  | (other, .number value) => if other = name then some value else none
  | _ => none

theorem eq_of_numberOf {name : String} {setting : String × Setting} {n : Nat}
    (number : numberOf name setting = some n) : setting.2 = .number n := by
  unfold numberOf at number
  split at number
  next other value =>
    split at number
    next => exact congrArg Setting.number (Option.some.inj number)
    next => contradiction
  next => contradiction

theorem text?_eq (settings : Settings) (name : String) :
    settings.text? name = (settings.filterMap (textOf name)).head? := by
  rw [List.head?_filterMap]
  rfl

theorem number?_eq (settings : Settings) (name : String) :
    settings.number? name = (settings.filterMap (numberOf name)).head? := by
  rw [List.head?_filterMap]
  rfl

theorem countP_eq (settings : Settings) (name : String) :
    settings.countP (·.1 == name) = (settings.map Prod.fst).count name := by
  rw [List.count_eq_countP, List.countP_map]
  rfl

theorem has_of_countP {settings : Settings} {name : String} {given : Bool}
    (count : settings.countP (·.1 == name) = given.toNat) : settings.has name = given := by
  cases given with
  | false => exact has_eq_false_iff.2 count
  | true =>
    cases absent : settings.has name with
    | true => rfl
    | false =>
      rw [has_eq_false_iff.1 absent] at count
      contradiction

end Settings

section Views

variable {parts : List Part} {part : Part} {own added : Settings}

theorem Adds.view_eq {ι β : Type} {gives : ι → Settings → Prop} {items : List ι}
    {g : ι → List β} (adds : Adds gives items added) (view : Settings → List β)
    (nil : view [] = []) (append : ∀ own others, view (own ++ others) = view own ++ view others)
    (each : ∀ item own, gives item own → view own = g item) : view added = items.flatMap g := by
  induction items generalizing added with
  | nil =>
    obtain rfl := adds
    exact nil
  | cons item rest ih =>
    obtain ⟨own, others, first, more, rfl⟩ := adds
    rw [append, List.flatMap_cons, each item own first, ih more]

theorem names_of_gives (given : part.Gives own) : own.map Prod.fst = part.names := by
  cases part with
  | letters first more =>
    obtain rfl := given
    exact List.map_map
  | _ =>
    obtain ⟨_, -, rfl⟩ := given
    rfl

theorem texts_of_gives (given : part.Gives own) :
    own.filterMap (Settings.textOf indexDump.operand.name) = part.index?.toList := by
  cases part with
  | index path =>
    obtain ⟨_, ⟨-, rfl⟩, rfl⟩ := given
    rfl
  | letters first more =>
    obtain rfl := given
    rw [List.filterMap_map]
    exact List.filterMap_eq_nil_iff.2 fun _ _ => rfl
  | interval text attached =>
    obtain ⟨_, ⟨n, -, rfl⟩, rfl⟩ := given
    rfl
  | _ =>
    obtain ⟨_, rfl, rfl⟩ := given
    rfl

theorem numbers_of_gives (given : part.Gives own) :
    (own.filterMap (Settings.numberOf "progress-every")).map Except.ok =
      (part.interval?.map positive).toList := by
  cases part with
  | index path =>
    obtain ⟨_, ⟨-, rfl⟩, rfl⟩ := given
    rfl
  | letters first more =>
    obtain rfl := given
    rw [List.filterMap_map]
    exact congrArg (List.map _) (List.filterMap_eq_nil_iff.2 fun _ _ => rfl)
  | interval text attached =>
    obtain ⟨_, ⟨n, read, rfl⟩, rfl⟩ := given
    rw [Part.interval?, Option.map_some, read]
    rfl
  | _ =>
    obtain ⟨_, rfl, rfl⟩ := given
    rfl

theorem names_of_adds (adds : Adds Part.Gives parts added) :
    added.map Prod.fst = parts.flatMap Part.names :=
  adds.view_eq (List.map Prod.fst) rfl (fun _ _ => List.map_append) fun _ _ => names_of_gives

theorem texts_of_adds (adds : Adds Part.Gives parts added) :
    added.filterMap (Settings.textOf indexDump.operand.name) = parts.filterMap Part.index? := by
  have texts := adds.view_eq (List.filterMap (Settings.textOf indexDump.operand.name)) rfl
    (fun _ _ => List.filterMap_append) fun _ _ => texts_of_gives
  rw [texts, List.filterMap_eq_flatMap_toList]

theorem numbers_of_adds (adds : Adds Part.Gives parts added) :
    (added.filterMap (Settings.numberOf "progress-every")).map Except.ok =
      (parts.filterMap Part.interval?).map positive := by
  have numbers := adds.view_eq
    (fun own => (own.filterMap (Settings.numberOf "progress-every")).map Except.ok) rfl
    (by simp) fun _ _ => numbers_of_gives
  rw [numbers, List.map_filterMap, List.filterMap_eq_flatMap_toList]

end Views

theorem count_flatMap_names {α : Type} {name : String} {about : Part → Option α}
    (each : ∀ part, part.names.count name = (about part).toList.length) (parts : List Part) :
    (parts.flatMap Part.names).count name = (parts.filterMap about).length := by
  rw [List.count_flatMap, List.filterMap_eq_flatMap_toList, List.length_flatMap]
  exact congrArg List.sum (List.map_congr_left fun part _ => each part)

theorem count_names_marks {name : String} (other : ∀ mark : Mark, mark.name ≠ name)
    (marks : List Mark) : (marks.map Mark.name).count name = 0 := by
  apply List.count_eq_zero.2
  rintro member
  obtain ⟨mark, -, same⟩ := List.mem_map.1 member
  exact other mark same

theorem count_names_index (part : Part) :
    part.names.count indexDump.operand.name = part.index?.toList.length := by
  have other : ∀ mark : Mark, mark.name ≠ indexDump.operand.name := by
    rintro (_ | _) <;> decide +kernel
  cases part with
  | letters first more => exact count_names_marks other (first :: more)
  | word mark => exact count_names_marks other [mark]
  | _ => rfl

theorem count_names_interval (part : Part) :
    part.names.count "progress-every" = part.interval?.toList.length := by
  have other : ∀ mark : Mark, mark.name ≠ "progress-every" := by
    rintro (_ | _) <;> decide +kernel
  cases part with
  | letters first more => exact count_names_marks other (first :: more)
  | word mark => exact count_names_marks other [mark]
  | _ => rfl

section Answering

variable {parts : List Part} {request : Request} {settings : Settings} {interval : Nat}

theorem Spells.single (spells : Spells parts request) (adds : Adds Part.Gives parts settings) :
    settings.Single := by
  intro name member
  rw [Settings.countP_eq, names_of_adds adds]
  simp only [once, List.mem_cons, List.not_mem_nil, or_false] at member
  rcases member with rfl | rfl | rfl | rfl
  · rw [count_flatMap_names count_names_index, spells.index]
    exact Nat.le_refl 1
  · rw [spells.quiet]
    exact Bool.toNat_le request.quiet
  · rw [spells.noFirst]
    exact Bool.toNat_le request.noFirst
  · rw [count_flatMap_names count_names_interval, spells.interval]
    cases request.interval with
    | none => exact Nat.zero_le 1
    | some text => exact Nat.le_refl 1

theorem Spells.eq_index (spells : Spells parts request) {path : String}
    (member : .index path ∈ parts) : path = request.index := by
  have among : path ∈ parts.filterMap Part.index? := List.mem_filterMap.2 ⟨_, member, rfl⟩
  rw [spells.index] at among
  exact List.mem_singleton.1 among

theorem Spells.interval_eq (spells : Spells parts request) {text : String} {attached : Bool}
    (member : .interval text attached ∈ parts) : request.interval = some text := by
  have among : text ∈ parts.filterMap Part.interval? := List.mem_filterMap.2 ⟨_, member, rfl⟩
  rw [spells.interval] at among
  exact Option.mem_toList.1 among

theorem Spells.distinct (spells : Spells parts request) : ∀ part ∈ parts, part.Distinct := by
  intro part member
  cases part with
  | index path =>
    obtain rfl := spells.eq_index member
    exact spells.path.2
  | interval text attached =>
    cases attached with
    | true => trivial
    | false => exact spells.separate text member
  | _ => trivial

theorem Spells.has_index (spells : Spells parts request) (adds : Adds Part.Gives parts settings) :
    settings.has indexDump.operand.name = true := by
  apply Settings.has_of_countP
  rw [Settings.countP_eq, names_of_adds adds, count_flatMap_names count_names_index, spells.index]
  rfl

theorem finish_eq_ok_iff {state : State} : state.finish indexDump = .ok settings ↔
    ∃ settled, state.settle = .ok settled ∧
      settled.settings.has indexDump.operand.name = true ∧ settled.settings = settings := by
  unfold State.finish
  rw [bind_eq_ok_iff]
  refine exists_congr fun settled => and_congr_right fun _ => ?_
  have needed : indexDump.operand.default.isNone = true := rfl
  cases settled.settings.has indexDump.operand.name with
  | true => simp [needed]
  | false => simp [needed, State.fail]

/-- A line that spells a request is accepted exactly with the settings that its parts give. -/
theorem Spells.parse_eq_ok_iff (spells : Spells parts request) :
    indexDump.parse (parts.flatMap Part.arguments) = .ok settings ↔
      Adds Part.Gives parts settings := by
  have start : Between {} false := ⟨rfl, rfl, fun _ some => by contradiction⟩
  have tidy : State.Tidy {} := ⟨rfl, fun _ _ => Nat.zero_le 1⟩
  have one : false.toNat + (parts.filterMap Part.index?).length ≤ 1 := by
    rw [spells.index]
    exact Nat.le_refl 1
  have performs := State.Appends.foldlM appends_perform parts
  have steps : ((parts.flatMap Part.arguments).foldlM (State.step indexDump) {} >>= State.settle) =
      parts.foldlM Part.perform {} := foldlM_step_parts start spells.distinct one
  have parsed : indexDump.parse (parts.flatMap Part.arguments) = .ok settings ↔
      ∃ settled, parts.foldlM Part.perform {} = .ok settled ∧
        settled.settings.has indexDump.operand.name = true ∧ settled.settings = settings := by
    rw [← steps]
    unfold Command.parse
    simp only [bind_eq_ok_iff, finish_eq_ok_iff]
    constructor
    · rintro ⟨state, read, settled, done, checked⟩
      exact ⟨settled, ⟨state, read, done⟩, checked⟩
    · rintro ⟨settled, ⟨state, read, done⟩, checked⟩
      exact ⟨state, read, settled, done, checked⟩
  rw [parsed]
  constructor
  · rintro ⟨settled, done, -, rfl⟩
    obtain ⟨-, added, adds, grown⟩ := performs.sound tidy done
    rw [grown]
    exact adds
  · intro adds
    obtain ⟨settled, done, grown⟩ := performs.complete tidy adds (spells.single adds)
    have same : settled.settings = settings := grown
    exact ⟨settled, done, same ▸ spells.has_index adds, same⟩

theorem Spells.chosen (spells : Spells parts request) (adds : Adds Part.Gives parts settings) :
    Chosen request.interval ((settings.number? "progress-every").getD Scan.defaultInterval) := by
  have numbers := numbers_of_adds adds
  rw [spells.interval] at numbers
  rw [Settings.number?_eq]
  cases given : request.interval with
  | none =>
    rw [given] at numbers
    rw [List.map_eq_nil_iff.1 numbers]
    rfl
  | some text =>
    rw [given, Option.toList_some, List.map_singleton, List.map_eq_singleton_iff] at numbers
    obtain ⟨n, only, read⟩ := numbers
    rw [only]
    exact positive_eq_ok_iff.1 read.symm

theorem Chosen.unique {text : Option String} {one two : Nat} (first : Chosen text one)
    (second : Chosen text two) : one = two := by
  cases text with
  | none => exact first.trans second.symm
  | some text =>
    have same := (positive_eq_ok_iff.2 first).symm.trans (positive_eq_ok_iff.2 second)
    exact Except.ok.inj same

theorem Spells.exists_adds (spells : Spells parts request)
    (chosen : Chosen request.interval interval) : ∃ settings, Adds Part.Gives parts settings := by
  apply exists_adds_iff.2
  intro part member
  cases part with
  | index path =>
    obtain rfl := spells.eq_index member
    exact ⟨_, _, ⟨spells.path.1, rfl⟩, rfl⟩
  | letters first more => exact ⟨_, rfl⟩
  | interval text attached =>
    rw [spells.interval_eq member] at chosen
    exact ⟨_, _, ⟨interval, positive_eq_ok_iff.2 chosen, rfl⟩, rfl⟩
  | _ => exact ⟨_, _, rfl, rfl⟩

theorem Spells.ofSettings_eq (spells : Spells parts request)
    (adds : Adds Part.Gives parts settings) (chosen : Chosen request.interval interval) :
    DumpArguments.ofSettings settings = request.answer interval := by
  have counts (name : String) : settings.countP (·.1 == name) =
      (parts.flatMap Part.names).count name := by
    rw [Settings.countP_eq, names_of_adds adds]
  have index : settings.text? indexDump.operand.name = some request.index := by
    rw [Settings.text?_eq, texts_of_adds adds, spells.index]
    rfl
  have quiet : settings.has "quiet" = request.quiet :=
    Settings.has_of_countP ((counts "quiet").trans spells.quiet)
  have noFirst : settings.has "no-debug-dump" = request.noFirst :=
    Settings.has_of_countP ((counts "no-debug-dump").trans spells.noFirst)
  have verbose : settings.count "verbose" = min request.verbose 255 := by
    rw [Settings.count, counts, spells.verbose, Nat.min_comm]
  rw [DumpArguments.ofSettings, index, quiet, noFirst, verbose, (spells.chosen adds).unique chosen]
  rfl

end Answering

namespace DumpArguments

theorem parse_eq_ok_iff {arguments : List String} {answer : DumpArguments} :
    parse arguments = .ok answer ↔
      ∃ settings, indexDump.parse arguments = .ok settings ∧ ofSettings settings = answer := by
  unfold parse
  cases indexDump.parse arguments with
  | error stop => simp [Except.map]
  | ok settings => simp [Except.map]

theorem ensureValid_of_one_le {arguments : DumpArguments} (some : 1 ≤ arguments.markEvery) :
    arguments.options.ensureValid = .ok () :=
  if_neg (Nat.ne_of_gt some)

theorem one_le_markEvery {arguments : List String} {answer : DumpArguments}
    (accepted : parse arguments = .ok answer) : 1 ≤ answer.markEvery := by
  obtain ⟨settings, parsed, rfl⟩ := parse_eq_ok_iff.1 accepted
  change 1 ≤ (settings.number? "progress-every").getD Scan.defaultInterval
  cases given : settings.number? "progress-every" with
  | none => decide
  | some n =>
    rw [Settings.number?_eq, List.head?_filterMap] at given
    obtain ⟨setting, member, number⟩ := List.exists_of_findSome?_eq_some given
    have sound := Command.sound_of_parse parsed setting member
    rw [Settings.eq_of_numberOf number] at sound
    exact sound.1

/-- Whatever parts spell a request, in whatever order, the line is accepted with the same answer,
unless the text for the interval is no positive number of 64 bits; then it is refused. The options
of an answer are valid, and what no flag is about is as it is by default. -/
theorem parse_spelled :
    (∀ parts request, Spells parts request →
      (∀ interval, Chosen request.interval interval →
        parse (parts.flatMap Part.arguments) = .ok (request.answer interval) ∧
        (request.answer interval).options =
          { markEvery := interval, showFirst := !request.noFirst, quiet := request.quiet,
            fields := {}, allowed := .standard }) ∧
      ((∃ answer, parse (parts.flatMap Part.arguments) = .ok answer) ↔
        ∃ interval, Chosen request.interval interval)) ∧
    (∀ n, 1 ≤ n → n < UInt64.size → Chosen (some (toString n)) n) ∧
    ∀ arguments answer, parse arguments = .ok answer → answer.options.ensureValid = .ok () := by
  refine ⟨fun parts request spells => ?_, fun n positive bounded => ?_,
    fun arguments answer accepted => ensureValid_of_one_le (one_le_markEvery accepted)⟩
  · have answered (interval : Nat) (chosen : Chosen request.interval interval) :
        parse (parts.flatMap Part.arguments) = .ok (request.answer interval) := by
      obtain ⟨settings, adds⟩ := spells.exists_adds chosen
      exact parse_eq_ok_iff.2
        ⟨settings, spells.parse_eq_ok_iff.2 adds, spells.ofSettings_eq adds chosen⟩
    refine ⟨fun interval chosen => ⟨answered interval chosen, rfl⟩, ?_, ?_⟩
    · rintro ⟨answer, accepted⟩
      obtain ⟨settings, parsed, -⟩ := parse_eq_ok_iff.1 accepted
      exact ⟨_, spells.chosen (spells.parse_eq_ok_iff.1 parsed)⟩
    · rintro ⟨interval, chosen⟩
      exact ⟨_, answered interval chosen⟩
  · exact ⟨numeral_toString n, positive, bounded⟩

/-- Three of the flags in one argument, a value in an argument of its own, and a second request
whose interval has one bit too many. -/
theorem parse_spelled_bundle :
    parse ["-vqv", "--progress-every", "+007", "--verbose", "idx", "--no-debug-dump"] =
        .ok ⟨"idx", true, false, 7, 3⟩ ∧
      ¬∃ answer, parse ["--progress-every=18446744073709551616", "idx"] = .ok answer := by
  obtain ⟨spelled, -⟩ := parse_spelled
  have bundle : Spells [.letters .verbose [.quiet, .verbose], .interval "+007" false,
      .word .verbose, .index "idx", .noFirst] ⟨"idx", true, true, some "+007", 3⟩ :=
    { index := rfl
      path := by decide +kernel
      quiet := by decide +kernel
      noFirst := by decide +kernel
      interval := rfl
      separate := by simp [Bare]
      verbose := by decide +kernel }
  have large : Spells [.interval "18446744073709551616" true, .index "idx"]
      ⟨"idx", false, false, some "18446744073709551616", 0⟩ :=
    { index := rfl
      path := by decide +kernel
      quiet := by decide +kernel
      noFirst := by decide +kernel
      interval := rfl
      separate := by simp
      verbose := by decide +kernel }
  have seven : Chosen (some "+007") 7 := positive_eq_ok_iff.1 (by decide +kernel)
  refine ⟨((spelled _ _ bundle).1 7 seven).1, fun accepted => ?_⟩
  obtain ⟨n, chosen⟩ := (spelled _ _ large).2.1 accepted
  have refused : positive "18446744073709551616" = .error .tooLarge := by decide +kernel
  have read := positive_eq_ok_iff.2 chosen
  rw [refused] at read
  contradiction

end DumpArguments

end ArtifactGroups.CommandLine
