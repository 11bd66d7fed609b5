import ArtifactGroups.Proofs.Index.Schema
import ArtifactGroups.Proofs.Volume

/-! What is declared on the way through the values of a draft. As long as no value clashes with the
declaration of its name, the schema has the names in the order of their first use and each name
with the type of its first use. The first clash ends it, before the directory is looked at. -/
namespace ArtifactGroups.Index

/-- Some name is used with a text and with a number, or a coordinate field with a number. -/
def Mixed (entries : List (String × Value)) : Prop :=
  (∃ name content n, (name, Value.text content) ∈ entries ∧ (name, Value.number n) ∈ entries) ∨
    ∃ name ∈ ["g", "a", "u"], ∃ n, (name, Value.number n) ∈ entries

theorem mem_uses_text_iff {records : List Record} {name : String} :
    (name, .text) ∈ uses records ↔
      name ∈ ["g", "a", "u"] ∨ ∃ content, (name, Value.text content) ∈ records.flatten := by
  simp only [uses, List.mem_append, List.mem_map]
  apply or_congr
  · simp [Schema.base]
  · constructor
    · rintro ⟨⟨own, value⟩, member, same⟩
      obtain ⟨rfl, text⟩ := Prod.mk.inj same
      cases value with
      | text content => exact ⟨content, member⟩
      | number => contradiction
    · rintro ⟨content, member⟩
      exact ⟨_, member, rfl⟩

theorem mem_uses_number_iff {records : List Record} {name : String} :
    (name, .number) ∈ uses records ↔ ∃ n, (name, Value.number n) ∈ records.flatten := by
  simp only [uses, List.mem_append, List.mem_map]
  constructor
  · rintro (declared | ⟨⟨own, value⟩, member, same⟩)
    · simp [Schema.base] at declared
    · obtain ⟨rfl, number⟩ := Prod.mk.inj same
      cases value with
      | text => contradiction
      | number n => exact ⟨n, member⟩
  · rintro ⟨n, member⟩
    exact .inr ⟨_, member, rfl⟩

theorem consistent_iff_not_mixed {records : List Record} :
    Consistent records ↔ ¬Mixed records.flatten := by
  constructor
  · intro consistent mixed
    have apart {name : String} (text : (name, .text) ∈ uses records)
        (number : (name, .number) ∈ uses records) : False := by
      have same := consistent _ text _ number rfl
      contradiction
    rcases mixed with ⟨name, content, n, text, number⟩ | ⟨name, base, n, number⟩
    · exact apart (mem_uses_text_iff.2 (.inr ⟨content, text⟩))
        (mem_uses_number_iff.2 ⟨n, number⟩)
    · exact apart (mem_uses_text_iff.2 (.inl base)) (mem_uses_number_iff.2 ⟨n, number⟩)
  · intro pure
    have apart {name : String} (text : (name, .text) ∈ uses records)
        (number : (name, .number) ∈ uses records) : False := by
      obtain ⟨n, number⟩ := mem_uses_number_iff.1 number
      rcases mem_uses_text_iff.1 text with base | ⟨content, text⟩
      · exact pure (.inr ⟨name, base, n, number⟩)
      · exact pure (.inl ⟨name, content, n, text, number⟩)
    rintro ⟨name, type⟩ member ⟨other, type'⟩ member' rfl
    cases type with
    | text =>
      cases type' with
      | text => rfl
      | number => exact (apart member member').elim
    | number =>
      cases type' with
      | text => exact (apart member' member).elim
      | number => rfl

namespace Schema

/-- The type with which some values declare a name: that of its first use. The coordinate fields
are declared from the start. -/
def declared? (before : List (String × Value)) (name : String) : Option ValueType :=
  (base ++ before.map typed).lookup name

/-- The value has another type than its name was declared with by the values before it. -/
def Clashes (before : List (String × Value)) (entry : String × Value) : Prop :=
  ∃ type, declared? before entry.1 = some type ∧ type ≠ entry.2.type

/-- Among the entries, which follow on others, the first that clashes has this name. -/
def FirstClash (before entries : List (String × Value)) (name : String) : Prop :=
  ∃ front value back, entries = front ++ (name, value) :: back ∧
    Clashes (before ++ front) (name, value) ∧
    ∀ earlier other later, front = earlier ++ other :: later → ¬Clashes (before ++ earlier) other

/-- The schema is what some values declare. -/
structure Declares (schema : Schema) (before : List (String × Value)) : Prop where
  types : ∀ name, schema.type? name = declared? before name
  distinct : schema.names.Nodup
  /-- The coordinate fields, and then every other name in the order of first use. -/
  order : schema.names =
    ["g", "a", "u"] ++ ((before.map (·.1)).removeAll ["g", "a", "u"]).eraseDups

variable {schema : Schema} {before : List (String × Value)} {entry : String × Value}

theorem declares_base : Declares base [] where
  types name := by rw [declared?, List.map_nil, List.append_nil, type?]
  distinct := by decide
  order := rfl

theorem declared?_concat (name : String) :
    declared? (before ++ [entry]) name =
      (declared? before name).or (if name = entry.1 then some entry.2.type else none) := by
  rw [declared?, List.map_append, ← List.append_assoc, List.lookup_append, ← declared?]
  by_cases same : name = entry.1
  · simp [typed, same]
  · simp [typed, same, List.lookup_cons, beq_false_of_ne same]

theorem mem_names_iff {name : String} : name ∈ schema.names ↔ (schema.type? name).isSome := by
  rw [type?, List.lookup_isSome_iff, names, List.mem_map]
  constructor
  · rintro ⟨field, member, rfl⟩
    exact ⟨field, member, beq_self_eq_true _⟩
  · rintro ⟨field, member, same⟩
    exact ⟨field, member, (eq_of_beq same).symm⟩

theorem Declares.declare_of_clashes (declares : Declares schema before)
    (clashes : Clashes before entry) : declare schema entry = .error ⟨entry.1⟩ := by
  obtain ⟨type, declared, other⟩ := clashes
  rw [← declares.types] at declared
  simp only [declare, declared, if_neg other]

theorem eraseDups_removeAll_concat (base names : List String) (name : String) :
    ((names ++ [name]).removeAll base).eraseDups =
      if name ∈ base ++ (names.removeAll base).eraseDups then (names.removeAll base).eraseDups
      else (names.removeAll base).eraseDups ++ [name] := by
  have split : (names ++ [name]).removeAll base = names.removeAll base ++ [name].removeAll base :=
    List.filter_append _ _
  rw [split, List.eraseDups_append]
  by_cases inBase : name ∈ base
  · simp [List.removeAll, inBase]
  · by_cases used : name ∈ names
    · simp [List.removeAll, inBase, used]
    · simp [List.removeAll, inBase, used, List.eraseDups_cons]

theorem Declares.keep (declares : Declares schema before)
    (known : (declared? before entry.1).isSome) : Declares schema (before ++ [entry]) where
  types name := by
    rw [declares.types, declared?_concat]
    by_cases same : name = entry.1
    · obtain ⟨type, declared⟩ := Option.isSome_iff_exists.1 known
      rw [same, declared, Option.some_or]
    · rw [if_neg same, Option.or_none]
  distinct := declares.distinct
  order := by
    have member : entry.1 ∈ schema.names := mem_names_iff.2 (declares.types _ ▸ known)
    rw [declares.order] at member
    rw [declares.order, List.map_append, List.map_singleton, eraseDups_removeAll_concat,
      if_pos member]

theorem Declares.extend (declares : Declares schema before)
    (fresh : declared? before entry.1 = none) :
    Declares (schema ++ [typed entry]) (before ++ [entry]) := by
  have unknown : entry.1 ∉ schema.names := by
    rw [mem_names_iff, declares.types, fresh]
    exact Bool.false_ne_true
  have names : (schema ++ [typed entry]).names = schema.names ++ [entry.1] := List.map_append
  refine ⟨fun name => ?_, ?_, ?_⟩
  · rw [declared?_concat, ← declares.types, type?, List.lookup_append]
    by_cases same : name = entry.1
    · simp [type?, typed, same]
    · simp [type?, typed, same, List.lookup_cons, beq_false_of_ne same]
  · rw [names, List.nodup_append]
    refine ⟨declares.distinct, List.nodup_cons.2 ⟨List.not_mem_nil, List.nodup_nil⟩, ?_⟩
    rintro name member own last rfl
    exact unknown (List.mem_singleton.1 last ▸ member)
  · rw [names]
    rw [declares.order] at unknown ⊢
    rw [List.map_append, List.map_singleton, eraseDups_removeAll_concat, if_neg unknown,
      List.append_assoc]

theorem Declares.declare_ok (declares : Declares schema before) (fits : ¬Clashes before entry) :
    ∃ next, declare schema entry = .ok next ∧ Declares next (before ++ [entry]) := by
  cases declared : declared? before entry.1 with
  | none =>
    refine ⟨_, ?_, declares.extend declared⟩
    simp only [declare, declares.types, declared, typed]
  | some type =>
    have same : type = entry.2.type :=
      Decidable.not_not.1 fun other => fits ⟨type, declared, other⟩
    refine ⟨schema, ?_, declares.keep (by rw [declared]; rfl)⟩
    simp only [declare, declares.types, declared, if_pos same]

theorem firstClash_nil {name : String} : ¬FirstClash before [] name := by
  rintro ⟨front, value, back, parts, -⟩
  simp at parts

theorem firstClash_of_clashes {rest : List (String × Value)} {name : String}
    (clashes : Clashes before entry) :
    FirstClash before (entry :: rest) name ↔ entry.1 = name := by
  constructor
  · rintro ⟨front, value, back, parts, -, calm⟩
    cases front with
    | nil => exact congrArg Prod.fst (List.cons.inj parts).1
    | cons first others =>
      obtain ⟨rfl, -⟩ := List.cons.inj parts
      have fits := calm [] entry others rfl
      rw [List.append_nil] at fits
      exact absurd clashes fits
  · rintro rfl
    refine ⟨[], entry.2, rest, rfl, by rwa [List.append_nil], ?_⟩
    intro earlier other later parts
    simp at parts

theorem firstClash_of_not_clashes {rest : List (String × Value)} {name : String}
    (fits : ¬Clashes before entry) :
    FirstClash before (entry :: rest) name ↔ FirstClash (before ++ [entry]) rest name := by
  constructor
  · rintro ⟨front, value, back, parts, clashes, calm⟩
    cases front with
    | nil =>
      obtain ⟨rfl, -⟩ := List.cons.inj parts
      rw [List.append_nil] at clashes
      exact absurd clashes fits
    | cons first others =>
      obtain ⟨rfl, rfl⟩ := List.cons.inj parts
      refine ⟨others, value, back, rfl, by simpa using clashes, ?_⟩
      rintro earlier other later rfl
      simpa using calm (entry :: earlier) other later rfl
  · rintro ⟨front, value, back, rfl, clashes, calm⟩
    refine ⟨entry :: front, value, back, rfl, by simpa using clashes, ?_⟩
    intro earlier other later parts
    cases earlier with
    | nil =>
      obtain ⟨rfl, -⟩ := List.cons.inj parts
      simpa using fits
    | cons first others =>
      obtain ⟨rfl, rfl⟩ := List.cons.inj parts
      simpa using calm others other later rfl

/-- Declaring value by value goes on until the first that clashes, and that one is named. -/
theorem Declares.foldlM_declare (declares : Declares schema before)
    (entries : List (String × Value)) :
    match entries.foldlM declare schema with
    | .ok final => Declares final (before ++ entries) ∧ ∀ name, ¬FirstClash before entries name
    | .error conflict => ∀ name, FirstClash before entries name ↔ conflict.field = name := by
  induction entries generalizing schema before with
  | nil => exact ⟨by rwa [List.append_nil], fun _ => firstClash_nil⟩
  | cons entry rest ih =>
    rw [List.foldlM_cons]
    by_cases clashes : Clashes before entry
    · rw [declares.declare_of_clashes clashes]
      exact fun name => firstClash_of_clashes clashes
    · obtain ⟨next, declared, onward⟩ := declares.declare_ok clashes
      have later := ih onward
      rw [List.append_assoc] at later
      simp only [firstClash_of_not_clashes clashes]
      rw [declared]
      exact later

theorem Declares.type?_of_mem (declares : Declares schema before) {field : String × ValueType}
    (member : field ∈ schema) : schema.type? field.1 = some field.2 := by
  obtain ⟨front, back, parts⟩ := List.append_of_mem member
  rw [type?, List.lookup_eq_some_iff]
  refine ⟨front, back, parts, fun other inside => ?_⟩
  have distinct := declares.distinct
  rw [names, parts, List.map_append, List.map_cons, List.nodup_append] at distinct
  have apart := distinct.2.2 other.1 (List.mem_map_of_mem inside) field.1 List.mem_cons_self
  exact bne_iff_ne.2 apart.symm

theorem fields_eq_ok {record : Record}
    (typed : ∀ entry ∈ record, schema.type? entry.1 = some entry.2.type) :
    schema.fields record = .ok (record.map (·.2.type)) := by
  induction record with
  | nil => rfl
  | cons entry rest ih =>
    obtain ⟨here, later⟩ := List.forall_mem_cons.1 typed
    have own : schema.field entry.1 = .ok entry.2.type := by rw [field, here]
    rw [fields, List.mapM_cons, own, ← fields, ih later]
    rfl

/-- The schema is made for these records: the coordinate fields and then every other name of a
value, in the order of first use. Each name stands once, with the type of all its values, and
there is a field of the right type for every value. -/
structure Serves (schema : Schema) (records : List Record) : Prop where
  names : schema.names =
    ["g", "a", "u"] ++ ((records.flatten.map (·.1)).removeAll ["g", "a", "u"]).eraseDups
  distinct : schema.names.Nodup
  base : ∀ name ∈ ["g", "a", "u"], (name, .text) ∈ schema
  types : ∀ field ∈ schema, ∀ value, (field.1, value) ∈ records.flatten → value.type = field.2
  found : ∀ record ∈ records, schema.fields record = .ok (record.map (·.2.type))

theorem serves_of_ofRecords {records : List Record} (declared : ofRecords records = .ok schema) :
    Serves schema records := by
  have run := declares_base.foldlM_declare records.flatten
  have each := (foldlM_declare_ok_iff base records.flatten).1 ⟨schema, declared⟩
  rw [show records.flatten.foldlM declare base = .ok schema from declared] at run
  obtain ⟨declares, -⟩ := run
  have typed (entry : String × Value) (member : entry ∈ records.flatten) :
      schema.type? entry.1 = some entry.2.type :=
    (declares.types entry.1).trans (each entry member)
  refine ⟨declares.order, declares.distinct, fun name coordinate => ?_, ?_, ?_⟩
  · have first : declared? ([] ++ records.flatten) name = some .text := by
      apply lookup_append_of_some
      simp only [List.mem_cons, List.not_mem_nil, or_false] at coordinate
      rcases coordinate with rfl | rfl | rfl <;> rfl
    rw [← declares.types, type?, List.lookup_eq_some_iff] at first
    obtain ⟨front, back, parts, -⟩ := first
    simp [parts]
  · intro field inside value member
    have here := typed (field.1, value) member
    rw [declares.type?_of_mem inside] at here
    exact (Option.some.inj here).symm
  · intro record inside
    apply fields_eq_ok
    exact fun entry member => typed entry (List.mem_flatten_of_mem inside member)

theorem ofRecords_eq_error_iff {records : List Record} {conflict : TypeConflict} :
    ofRecords records = .error conflict ↔ FirstClash [] records.flatten conflict.field := by
  have run := declares_base.foldlM_declare records.flatten
  rw [← ofRecords] at run
  cases declared : ofRecords records with
  | ok schema =>
    rw [declared] at run
    simp [run.2]
  | error other =>
    rw [declared] at run
    simp only [run, Except.error.injEq]
    constructor
    · rintro rfl
      rfl
    · intro same
      cases other
      cases conflict
      exact congrArg TypeConflict.mk same

end Schema

section Writing

variable {volume : Volume} {draft : Draft} {path : String} {library : Library}
  {conflict : TypeConflict}

/-- The types of the values alone decide whether there is a conflict, and which. -/
theorem writeIndex_eq_conflict_iff :
    volume.writeIndex draft path library = .error (.conflict conflict) ↔
      Schema.FirstClash [] draft.records.flatten conflict.field := by
  rw [← Schema.ofRecords_eq_error_iff, ← Draft.schema]
  cases typed : draft.schema with
  | error other => simp [Volume.writeIndex_of_conflict typed]
  | ok schema =>
    rw [Volume.writeIndex_of_schema typed]
    split
    next => simp
    next => split <;> simp

theorem mixed_iff_conflict : Mixed draft.records.flatten ↔
    ∃ conflict, draft.schema = .error conflict := by
  have pure : (∃ schema, draft.schema = .ok schema) ↔ ¬Mixed draft.records.flatten :=
    (Schema.ofRecords_ok_iff draft.records).trans consistent_iff_not_mixed
  cases typed : draft.schema with
  | ok schema => simp [pure.1 ⟨schema, typed⟩]
  | error conflict =>
    have mixed : Mixed draft.records.flatten := by
      apply Classical.not_not.1
      rw [← pure, typed]
      rintro ⟨schema, same⟩
      contradiction
    exact iff_of_true mixed ⟨conflict, rfl⟩

theorem TypeConflict.message_inj {other : TypeConflict} (same : conflict.message = other.message) :
    conflict.field = other.field := by
  have front := (String.append_left_inj " used with two value types'").1 same
  exact (String.append_right_inj "Schema error: 'field ").1 front

end Writing

/-- Whatever the volume holds and whatever the library does, writing a draft ends with a conflict
exactly if some name is used with two types, where the coordinate fields count as used with text;
then no index is written, and the message names the first value that has another type than its name
was declared with. A draft without a conflict has a schema that serves its records. -/
theorem writeIndex_conflict (draft : Draft) :
    let entries := draft.records.flatten
    (∀ (volume : Volume) (path : String) (library : Library),
      let result := volume.writeIndex draft path library
      ((∃ conflict, result = .error (.conflict conflict)) ↔ Mixed entries) ∧
      (∀ name, (∃ conflict, result = .error (.conflict conflict) ∧
          conflict.message = "Schema error: 'field " ++ name ++ " used with two value types'") ↔
        Schema.FirstClash [] entries name) ∧
      ∀ written, result = .ok written → ¬Mixed entries) ∧
    (¬Mixed entries → ∃ schema, draft.schema = .ok schema ∧ schema.Serves draft.records) := by
  intro entries
  refine ⟨fun volume path library => ⟨?_, fun name => ?_, fun written done => ?_⟩, fun pure => ?_⟩
  · simp only [entries, mixed_iff_conflict, writeIndex_eq_conflict_iff,
      ← Schema.ofRecords_eq_error_iff, Draft.schema]
  · simp only [writeIndex_eq_conflict_iff]
    constructor
    · rintro ⟨conflict, first, message⟩
      have equal : conflict.message = TypeConflict.message ⟨name⟩ := message
      have same : conflict.field = name := TypeConflict.message_inj equal
      exact same ▸ first
    · exact fun first => ⟨⟨name⟩, first, rfl⟩
  · obtain ⟨schema, -, typed, -⟩ := Volume.writeIndex_eq_ok_iff.1 done
    simp [entries, mixed_iff_conflict, typed]
  · obtain ⟨schema, typed⟩ := Schema.ofRecords_ok_iff _ |>.2 (consistent_iff_not_mixed.2 pure)
    exact ⟨schema, typed, Schema.serves_of_ofRecords typed⟩

/-- The conflict that comes first is named, although the name of another one is used earlier and
there is no directory to write to. -/
theorem writeIndex_conflict_second_name :
    let clashing : Draft := { records :=
      [[("x", .number 1), ("m", .text "a")], [("m", .number 2), ("x", .text "t")]] }
    let pure : Draft := { records :=
      [[("k", .number 1)], [], [("a", .text "x"), ("m", .text ""), ("k", .number 0)]] }
    Mixed clashing.records.flatten ∧ Schema.FirstClash [] clashing.records.flatten "m" ∧
      (∀ library written, ({} : Volume).writeIndex clashing "idx" library ≠ .ok written) ∧
      ¬Mixed pure.records.flatten ∧
      ∃ schema, pure.schema = .ok schema ∧ schema.Serves pure.records ∧
        schema.names = ["g", "a", "u", "k", "m"] := by
  intro clashing pure
  have refused (library : Library) :
      ({} : Volume).writeIndex clashing "idx" library = .error (.conflict ⟨"m"⟩) := rfl
  obtain ⟨verdict, -⟩ := writeIndex_conflict clashing
  obtain ⟨mixed, first, -⟩ := verdict {} "idx" .observed
  have clash := mixed.1 ⟨_, refused _⟩
  have unmixed : ¬Mixed pure.records.flatten :=
    consistent_iff_not_mixed.1 (by decide +kernel)
  obtain ⟨schema, typed, serves⟩ := (writeIndex_conflict pure).2 unmixed
  have names : schema.names = ["g", "a", "u", "k", "m"] := serves.names
  have never (library : Library) (written : Volume) :
      ({} : Volume).writeIndex clashing "idx" library ≠ .ok written :=
    fun done => (verdict {} "idx" library).2.2 written done clash
  exact ⟨clash, (first "m").1 ⟨_, refused _, rfl⟩, never, unmixed, schema, typed, serves, names⟩

end ArtifactGroups.Index
