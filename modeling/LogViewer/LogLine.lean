import LogViewer.Level
import LogViewer.Text.Decimal

/-!
# Log lines

A log line has one of two shapes:

    08-11 19:11:07.132   495   512 D dtag    : message
    D/dtag    (  495): message

The first has date, time, process, thread, level, tag and text; the second has no date, time and
thread. Digits are decimal digits of any script, and white space is that of `Text.isBlank`.

## Main definitions

- `LogLine`: the parts of a line as they are written
- `LogLine.readTimed`, `LogLine.readBrief`: the two shapes
- `LogLine.read`: a line of either shape
-/

namespace LogViewer

open LogViewer.Text

/-- The parts of a log line. -/
structure LogLine where
  /-- Date and time, empty in the brief shape. -/
  timestamp : List CodePoint
  pid : List CodePoint
  /-- The thread, absent in the brief shape. -/
  tid : Option (List CodePoint)
  level : Level
  tag : List CodePoint
  text : List CodePoint
deriving DecidableEq, Repr

namespace LogLine

/-! ## §1 Pieces -/

/-- The level of a letter; F is another letter of the highest. -/
def levelOf? : CodePoint → Option Level
  | 'V' => some .verbose
  | 'D' => some .debug
  | 'I' => some .info
  | 'W' => some .warn
  | 'E' => some .error
  | 'F' => some .assert
  | 'A' => some .assert
  | _ => none

/-- A row of at least one digit, and what follows it. -/
def digits? (s : List CodePoint) : Option (List CodePoint × List CodePoint) :=
  match s.takeWhile isDecimal with
  | [] => none
  | ds => some (ds, s.dropWhile isDecimal)

/-- At least one white space character; gives what follows them all. -/
def blanks? (s : List CodePoint) : Option (List CodePoint) :=
  match s with
  | c :: rest => if isBlank c then some (dropBlanks rest) else none
  | [] => none

/-- A given character; gives what follows it. -/
def char? (c : CodePoint) (s : List CodePoint) : Option (List CodePoint) :=
  match s with
  | d :: rest => if d = c then some rest else none
  | [] => none

/-- Two digits, and what follows them. -/
def twoDigits? (s : List CodePoint) : Option (List CodePoint × List CodePoint) :=
  match s with
  | a :: b :: rest => if isDecimal a && isDecimal b then some ([a, b], rest) else none
  | _ => none

/-- Whether a text has no line feed. -/
def oneLine (s : List CodePoint) : Bool := !s.contains '\n'

/-! ## §2 The two shapes -/

/-- A date: month and day of two digits each. -/
def date? (s : List CodePoint) : Option (List CodePoint × List CodePoint) := do
  let (month, s) ← twoDigits? s
  let s ← char? '-' s
  let (day, s) ← twoDigits? s
  return (month ++ [('-' : CodePoint)] ++ day, s)

/-- A time: hours, minutes and seconds of two digits each, and a fraction. -/
def time? (s : List CodePoint) : Option (List CodePoint × List CodePoint) := do
  let (hours, s) ← twoDigits? s
  let s ← char? ':' s
  let (minutes, s) ← twoDigits? s
  let s ← char? ':' s
  let (seconds, s) ← twoDigits? s
  let s ← char? '.' s
  let (fraction, s) ← digits? s
  return (hours ++ [(':' : CodePoint)] ++ minutes ++ [(':' : CodePoint)] ++ seconds
    ++ [('.' : CodePoint)] ++ fraction, s)

/-- Cuts at the first colon and space after which no line feed comes; `before` holds in reverse what
was passed. -/
def cutAtColon : List CodePoint → List CodePoint → Option (List CodePoint × List CodePoint)
  | [], _ => none
  | c :: rest, before =>
    match c, rest with
    | ':', ' ' :: text =>
      if oneLine text then some (before.reverse, text) else cutAtColon rest (c :: before)
    | _, _ => cutAtColon rest (c :: before)

/-- The shape with date and time. -/
def readTimed (s : List CodePoint) : Option LogLine := do
  let (date, s) ← date? s
  let s ← blanks? s
  let (time, s) ← time? s
  let s ← blanks? s
  let (pid, s) ← digits? s
  let s ← blanks? s
  let (tid, s) ← digits? s
  let s ← blanks? s
  let letter ← s.head?
  let level ← levelOf? letter
  let s ← blanks? (s.drop 1)
  let (before, text) ← cutAtColon s []
  let tag := trimRight before
  if oneLine tag then
    some ⟨date ++ [(' ' : CodePoint)] ++ time, pid, some tid, level, tag, text⟩
  else none

/-- What follows the parenthesis before a process number: spaces, digits, the other parenthesis, a
colon, a space, and a text without line feed. -/
def bracketed? (s : List CodePoint) : Option (List CodePoint × List CodePoint) := do
  let (pid, s) ← digits? (s.dropWhile (· == (' ' : CodePoint)))
  let s ← char? ')' s
  let s ← char? ':' s
  let s ← char? ' ' s
  if oneLine s then some (pid, s) else none

/-- Cuts at the first parenthesis that a process number follows; `before` holds in reverse what was
passed. -/
def cutAtBracket : List CodePoint → List CodePoint →
    Option (List CodePoint × List CodePoint × List CodePoint)
  | [], _ => none
  | c :: rest, before =>
    match if c = '(' ∧ before ≠ [] then bracketed? rest else none with
    | some (pid, text) => some (before.reverse, pid, text)
    | none => cutAtBracket rest (c :: before)

/-- The brief shape. -/
def readBrief (s : List CodePoint) : Option LogLine := do
  let letter ← s.head?
  let level ← levelOf? letter
  let s ← char? '/' (s.drop 1)
  let (before, pid, text) ← cutAtBracket s []
  if oneLine before then some ⟨[], pid, none, level, trim before, text⟩ else none

/-! ## §3 Lines -/

/-- A line without the line ends after it. -/
def withoutLineEnd (s : List CodePoint) : List CodePoint :=
  (s.reverse.dropWhile fun c : CodePoint => c == '\r' || c == '\n').reverse

/-- A line of either shape, of which line ends are cut off. -/
def read (line : List CodePoint) : Option LogLine :=
  let s := withoutLineEnd line
  (readTimed s).or (readBrief s)

end LogLine

end LogViewer
