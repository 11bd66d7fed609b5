/-! What a command line may hold: one operand, and flags with or without a value. The same
description yields the parser, the names in its messages and the help text. -/
namespace ArtifactGroups.CommandLine

inductive ValueForm where
  | path
  /-- A positive number of 64 bits. -/
  | count
  deriving DecidableEq, Repr

inductive Action where
  /-- Given at most once. -/
  | switch
  /-- Given any number of times. -/
  | counter
  | value (name : String) (form : ValueForm) (default : String)
  | help
  | version
  deriving DecidableEq, Repr

structure Flag where
  long : String
  short : Option Char := none
  action : Action
  help : String
  deriving DecidableEq, Repr

/-- The value without a flag. Without a default it has to be given. -/
structure Operand where
  name : String
  default : Option String := none
  help : String
  deriving DecidableEq, Repr

structure Command where
  name : String
  about : String
  operand : Operand
  flags : List Flag
  deriving DecidableEq, Repr

def Flag.shown (flag : Flag) : String :=
  "--" ++ flag.long ++
    match flag.action with
    | .value name _ _ => " <" ++ name ++ ">"
    | .counter => "..."
    | _ => ""

def Operand.shown (operand : Operand) : String :=
  match operand.default with
  | none => "<" ++ operand.name ++ ">"
  | some _ => "[" ++ operand.name ++ "]"

def helpFlag : Flag := ⟨"help", some 'h', .help, "Print help"⟩

def versionFlag : Flag := ⟨"version", some 'V', .version, "Print version"⟩

namespace Command

def allFlags (command : Command) : List Flag := command.flags ++ [helpFlag, versionFlag]

def byLong? (command : Command) (name : String) : Option Flag :=
  command.allFlags.find? (·.long == name)

def byShort? (command : Command) (letter : Char) : Option Flag :=
  command.allFlags.find? (·.short == some letter)

end Command

end ArtifactGroups.CommandLine
