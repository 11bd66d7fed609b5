import ArtifactGroups.Sink

/-! Log events. An event is written as one line of the stream that carries the diagnostics,
if the chosen level lets it through; a line that cannot be written is dropped. -/
namespace ArtifactGroups

inductive Level where
  | warn
  | info
  | debug
  deriving DecidableEq, Repr

namespace Level

def ofCount : Nat → Level
  | 0 => .warn
  | 1 => .info
  | _ => .debug

def name : Level → String
  | .warn => "WARN"
  | .info => "INFO"
  | .debug => "DEBUG"

def rank : Level → Nat
  | .warn => 0
  | .info => 1
  | .debug => 2

def shows (level other : Level) : Bool := other.rank ≤ level.rank

end Level

structure Event where
  level : Level
  target : String
  message : String
  /-- Names with the values as they are shown. -/
  fields : List (String × String)
  deriving DecidableEq, Repr

/-- The level takes five columns, to the right. -/
def Event.line (event : Event) : String :=
  String.ofList (event.level.name.toList.leftpad 5 ' ') ++ " " ++ event.target ++ ": "
    ++ event.message
    ++ String.join (event.fields.map fun (name, value) => " " ++ name ++ "=" ++ value) ++ "\n"

def Sink.note (sink : Sink) (level : Level) (event : Event) : Sink :=
  if level.shows event.level then (sink.writeText event.line).1 else sink

theorem Sink.note_of_hidden {level : Level} {event : Event}
    (hidden : level.shows event.level = false) (sink : Sink) : sink.note level event = sink := by
  simp [note, hidden]

end ArtifactGroups
