/-! Documents as an index stores them: named values in stored order, where a name may occur
more than once. Only text values take part in look-ups. -/
namespace ArtifactGroups

inductive StoredValue where
  | text (content : String)
  /-- A number, a date, raw bytes: known by its rendering alone. -/
  | other (rendering : String)
  deriving DecidableEq, Repr

namespace StoredValue

def text? : StoredValue → Option String
  | .text content => some content
  | .other _ => none

def shown : StoredValue → String
  | .text content => content
  | .other rendering => rendering

end StoredValue

structure Field where
  name : String
  value : StoredValue
  deriving DecidableEq, Repr

/-- `ordinal` is the document's position in its index, as its source reports it. -/
structure Document where
  ordinal : Nat := 0
  fields : List Field := []
  deriving DecidableEq, Repr

namespace Document

def push (doc : Document) (field : Field) : Document :=
  { doc with fields := doc.fields ++ [field] }

def addText (doc : Document) (name content : String) : Document :=
  doc.push ⟨name, .text content⟩

/-- The first text value under a name; other values under that name are passed over. -/
def text? (doc : Document) (name : String) : Option String :=
  doc.fields.findSome? fun field => if field.name = name then field.value.text? else none

end Document

end ArtifactGroups
