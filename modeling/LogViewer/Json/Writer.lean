import LogViewer.Json.Value

/-!
# Writing JSON

Objects of strings on one line. Only the quote, the backslash and the controls below the space are
escaped, with the short escapes where there are any; all other characters are written as they are.

## Main definitions

- `escape`: the written form of one character
- `writeString`: a string between quotes
- `writeObject`: an object whose values are strings
-/

namespace LogViewer.Json

/-- Hexadecimal form of a control character. -/
def controlEscape (c : CodePoint) : List CodePoint :=
  '\\' :: 'u' :: Text.hexDigits 4 c.toNat

/-- Written form of one character of a string. -/
def escape (c : CodePoint) : List CodePoint :=
  if c = '"' then ['\\', '"']
  else if c = '\\' then ['\\', '\\']
  else if c = '\n' then ['\\', 'n']
  else if c = '\r' then ['\\', 'r']
  else if c = '\t' then ['\\', 't']
  else if c = '\x08' then ['\\', 'b']
  else if c = '\x0c' then ['\\', 'f']
  else if c.toNat < 32 then controlEscape c
  else [c]

/-- A string between quotes. -/
def writeString (s : List CodePoint) : List CodePoint :=
  ('"' : CodePoint) :: s.flatMap escape ++ [('"' : CodePoint)]

/-- Members separated by commas. -/
def writeMembers : List (Text × Text) → List CodePoint
  | [] => []
  | [(key, value)] => writeString key.toList ++ [(':' : CodePoint), ' '] ++ writeString value.toList
  | (key, value) :: rest =>
    writeString key.toList ++ [(':' : CodePoint), ' '] ++ writeString value.toList
      ++ [(',' : CodePoint), ' ']
      ++ writeMembers rest

/-- An object whose values are strings. -/
def writeObject (members : List (Text × Text)) : List CodePoint :=
  ('\x7b' : CodePoint) :: writeMembers members ++ [('\x7d' : CodePoint)]

end LogViewer.Json
