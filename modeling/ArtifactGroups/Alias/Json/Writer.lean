/-! The written form of an alias table: a JSON object with one member a line, indented by two
spaces. Only the quote, the backslash and the control characters are escaped, so a line
break in the text is always the end of a member. -/
namespace ArtifactGroups.Alias.Json

/-- Two lower-case hexadecimal digits, enough for a control character. -/
def controlCode (c : Char) : List Char :=
  [Nat.digitChar (c.toNat / 16), Nat.digitChar (c.toNat % 16)]

def escape (c : Char) : List Char :=
  if c = '"' then ['\\', '"']
  else if c = '\\' then ['\\', '\\']
  else if c = '\x08' then ['\\', 'b']
  else if c = '\t' then ['\\', 't']
  else if c = '\n' then ['\\', 'n']
  else if c = '\x0c' then ['\\', 'f']
  else if c = '\r' then ['\\', 'r']
  else if c.toNat < 0x20 then ['\\', 'u', '0', '0'] ++ controlCode c
  else [c]

def string (text : String) : List Char := '"' :: text.toList.flatMap escape ++ ['"']

def member (entry : String × String) : List Char :=
  [' ', ' '] ++ string entry.1 ++ [':', ' '] ++ string entry.2

/-- Members on lines of their own, a comma after all but the last. -/
def object : List (String × String) → List Char
  | [] => ['{', '}']
  | entries => ['{', '\n'] ++ [',', '\n'].intercalate (entries.map member) ++ ['\n', '}']

end ArtifactGroups.Alias.Json
