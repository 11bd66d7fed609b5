/-! Positive numbers of 64 bits, read from decimal digits with an optional plus sign. -/
namespace ArtifactGroups.CommandLine

inductive NumberFault where
  | empty
  | invalidDigit
  | tooLarge
  | zero
  deriving DecidableEq, Repr

def NumberFault.message : NumberFault → String
  | .empty => "cannot parse integer from empty string"
  | .invalidDigit => "invalid digit found in string"
  | .tooLarge => "number too large to fit in target type"
  | .zero => "0 is not in 1..18446744073709551615"

/-- Appends one digit to a number. The text is judged from the left, so a number that is too
large hides a wrong character after it. -/
def appendDigit (n : Nat) (c : Char) : Except NumberFault Nat :=
  if '0' ≤ c ∧ c ≤ '9' then
    let next := n * 10 + (c.toNat - 0x30)
    if next < UInt64.size then .ok next else .error .tooLarge
  else .error .invalidDigit

def natural (text : List Char) : Except NumberFault Nat :=
  match text with
  | [] => .error .empty
  | ['+'] => .error .invalidDigit
  | '+' :: digits => digits.foldlM appendDigit 0
  | digits => digits.foldlM appendDigit 0

def positive (text : String) : Except NumberFault Nat := do
  match ← natural text.toList with
  | 0 => .error .zero
  | n => .ok n

end ArtifactGroups.CommandLine
