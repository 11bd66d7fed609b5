/-! The fields of an index and their types. A field has one type for all its values; it is
declared by its first use, and the three coordinate fields are declared from the start. -/
namespace ArtifactGroups.Index

inductive Value where
  | text (content : String)
  | number (n : UInt64)
  deriving DecidableEq, Repr

inductive ValueType where
  | text
  | number
  deriving DecidableEq, Repr

def Value.type : Value → ValueType
  | .text _ => .text
  | .number _ => .number

/-- One document as it is handed to an index: named values in the order they were added. -/
abbrev Record := List (String × Value)

/-- Declared names with their types, in the order of declaration. -/
abbrev Schema := List (String × ValueType)

/-- A field is used with a value of another type than it was declared with. -/
structure TypeConflict where
  field : String
  deriving DecidableEq, Repr

def TypeConflict.message (conflict : TypeConflict) : String :=
  "Schema error: 'field " ++ conflict.field ++ " used with two value types'"

/-- A value is stored under a name that has no field. -/
structure UnknownField where
  field : String
  deriving DecidableEq, Repr

namespace Schema

def base : Schema := [("g", .text), ("a", .text), ("u", .text)]

def type? (schema : Schema) (name : String) : Option ValueType := schema.lookup name

def names (schema : Schema) : List String := schema.map (·.1)

def field (schema : Schema) (name : String) : Except UnknownField ValueType :=
  match schema.type? name with
  | some type => .ok type
  | none => .error ⟨name⟩

def fields (schema : Schema) (record : Record) : Except UnknownField (List ValueType) :=
  record.mapM fun entry => schema.field entry.1

/-- Declares the field of a value, or checks it against its declaration. -/
def declare (schema : Schema) (entry : String × Value) : Except TypeConflict Schema :=
  match schema.type? entry.1 with
  | none => .ok (schema ++ [(entry.1, entry.2.type)])
  | some type => if type = entry.2.type then .ok schema else .error ⟨entry.1⟩

def ofRecords (records : List Record) : Except TypeConflict Schema :=
  records.flatten.foldlM declare base

end Schema

end ArtifactGroups.Index
