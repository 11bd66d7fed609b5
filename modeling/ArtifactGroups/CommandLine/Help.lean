import ArtifactGroups.CommandLine.Command

/-! The help and version texts of a command. Descriptions stand in one column, two spaces
behind the longest name. -/
namespace ArtifactGroups.CommandLine

def version : String := "0.1.0"

def Command.versionText (command : Command) : String := command.name ++ " " ++ version ++ "\n"

/-- A flag without a short form leaves its place free. -/
def Flag.spelling (flag : Flag) : String :=
  (match flag.short with
    | some letter => "-" ++ letter.toString ++ ", "
    | none => "    ") ++ flag.shown

def withDefault (help : String) (default : Option String) : String :=
  match default with
  | some value => help ++ " [default: " ++ value ++ "]"
  | none => help

def Flag.description (flag : Flag) : String :=
  withDefault flag.help <|
    match flag.action with
    | .value _ _ default => some default
    | _ => none

def columns (rows : List (String × String)) : String :=
  let width := rows.foldl (fun width row => max width row.1.length) 0
  String.join <| rows.map fun (name, description) =>
    "  " ++ String.ofList (name.toList.rightpad width ' ') ++ "  " ++ description ++ "\n"

def Command.helpText (command : Command) : String :=
  command.about ++ "\n\nUsage: " ++ command.name ++ " [OPTIONS] " ++ command.operand.shown
    ++ "\n\nArguments:\n"
    ++ columns [(command.operand.shown, withDefault command.operand.help command.operand.default)]
    ++ "\nOptions:\n"
    ++ columns (command.allFlags.map fun flag => (flag.spelling, flag.description))

end ArtifactGroups.CommandLine
