/-! What can go wrong, as causes, and the text that reports each cause. -/
namespace ArtifactGroups

inductive StreamFault where
  | brokenPipe
  | permissionDenied
  | unexpectedEof
  | other
  deriving DecidableEq, Repr

inductive PathFault where
  | missing
  | notDirectory
  | isDirectory
  | nameTooLong
  | containsNul
  deriving DecidableEq, Repr

def PathFault.message : PathFault → String
  | .missing => "No such file or directory (os error 2)"
  | .notDirectory => "Not a directory (os error 20)"
  | .isDirectory => "Is a directory (os error 21)"
  | .nameTooLong => "File name too long (os error 36)"
  | .containsNul => "file name contained an unexpected NUL byte"

inductive IoError where
  | stream (fault : StreamFault) (message : String)
  | notUtf8
  | path (fault : PathFault)
  deriving DecidableEq, Repr

namespace IoError

def message : IoError → String
  | .stream _ message => message
  | .notUtf8 => "stream did not contain valid UTF-8"
  | .path fault => fault.message

def isBrokenPipe : IoError → Bool
  | .stream .brokenPipe _ => true
  | _ => false

end IoError

inductive Error where
  | noIndex (path : String)
  | unreadableIndex (path reason : String)
  | unreadableDocument (ordinal : Nat) (reason : String)
  | ordinalTooLarge (ordinal total : Nat)
  | badOptions (problem : String)
  | io (cause : IoError)
  | json (problem : String)
  deriving DecidableEq, Repr

namespace Error

def message : Error → String
  | .noIndex path => "Index not found: " ++ path
  | .unreadableIndex path reason => "Failed to open index at " ++ path ++ ": " ++ reason
  | .unreadableDocument ordinal reason =>
    "Failed to read document " ++ toString ordinal ++ ": " ++ reason
  | .ordinalTooLarge ordinal total =>
    "Document ordinal " ++ toString ordinal ++ " out of range (max_doc = "
      ++ toString total ++ ")"
  | .badOptions problem => "Invalid configuration: " ++ problem
  | .io cause => "I/O error: " ++ cause.message
  | .json problem => "JSON error: " ++ problem

/-- Whether the index failed, rather than the caller or a stream. -/
def concernsIndex : Error → Bool
  | .noIndex _ | .unreadableIndex _ _ | .unreadableDocument _ _ | .ordinalTooLarge _ _ => true
  | _ => false

/-- The texts of an error and of its cause; only a failed stream is kept as a cause. -/
def causes : Error → List String
  | .io cause => [message (.io cause), cause.message]
  | error => [error.message]

end Error

/-- A failure of a whole program run, with what was being done at the time. -/
structure Failure where
  context : Option String := none
  cause : Error ⊕ IoError
  deriving DecidableEq

namespace Failure

def ofError (error : Error) : Failure := ⟨none, .inl error⟩

/-- The context and all causes, outermost first. -/
def chain (failure : Failure) : String :=
  ": ".intercalate <| failure.context.toList ++
    match failure.cause with
    | .inl error => error.causes
    | .inr fault => [fault.message]

end Failure

end ArtifactGroups
