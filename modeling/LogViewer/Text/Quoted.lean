import LogViewer.Text.Basic
import LogViewer.Text.Printable

/-!
# Quoted text

How a text is shown in a message: between single quotes, or between double quotes when it holds a
single quote and no double quote. The quote, the backslash and characters that are not printable
are written as escapes; the shortest of the three hexadecimal forms that has room for the code
point is taken.

## Main definitions

- `quoteFor`: the quote chosen for a text
- `escaped`: the written form of one character
- `quoted`: the quoted text
- `printed`: a text as a terminal shows it
-/

namespace LogViewer.Text

/-- Hexadecimal digit of a value below 16, in lower case. -/
def hexDigit (n : Nat) : Char :=
  if n < 10 then Char.ofNat (48 + n) else Char.ofNat (87 + n)

/-- The lowest `width` hexadecimal digits of a number. -/
def hexDigits : Nat → Nat → List CodePoint
  | 0, _ => []
  | width + 1, n => hexDigits width (n / 16) ++ [.char (hexDigit (n % 16))]

/-- Single quotes, unless the text holds one and no double quote. -/
def quoteFor (s : List CodePoint) : CodePoint :=
  if s.contains '\'' && !s.contains '"' then '"' else '\''

/-- Written form of one character between quotes. -/
def escaped (quote c : CodePoint) : List CodePoint :=
  if c = quote ∨ c = '\\' then ['\\', c]
  else if c = '\n' then ['\\', 'n']
  else if c = '\r' then ['\\', 'r']
  else if c = '\t' then ['\\', 't']
  else if isPrintable c.toNat then [c]
  else if c.toNat < 0x100 then '\\' :: 'x' :: hexDigits 2 c.toNat
  else if c.toNat < 0x10000 then '\\' :: 'u' :: hexDigits 4 c.toNat
  else '\\' :: 'U' :: hexDigits 8 c.toNat

/-- Quotes a text given by its characters. -/
def quotedChars (s : List CodePoint) : List CodePoint :=
  let quote := quoteFor s
  quote :: s.flatMap (escaped quote) ++ [quote]

/-- Quotes a text. -/
def quoted (s : Text) : Text :=
  Text.ofList (quotedChars s.toList)

/-- A text as a terminal shows it: surrogates are written as escapes. -/
def printed (s : Text) : String :=
  string <| ofList <| s.toList.flatMap fun c =>
    if c.isSurrogate then '\\' :: 'u' :: hexDigits 4 c.toNat else [c]

end LogViewer.Text
