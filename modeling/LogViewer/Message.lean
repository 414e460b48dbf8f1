import LogViewer.Level
import LogViewer.Text.Decimal

/-!
# Log messages

A message is fixed once it is made. It is written as one line for export, and as a row of two
styled parts for the screen.

## Main definitions

- `Message`
- `Message.pidText`, `Message.pidText?`: the process number as it is written
- `Message.render`, `Message.render?`: the line of a message in an exported file
- `Message.row`: the two parts of its row on the screen
-/

namespace LogViewer

/-- One log message. -/
structure Message where
  timestamp : Text
  pid : Int
  /-- The name of the process, or a question mark while it is not known. -/
  app : Text
  tag : Text
  level : Level
  text : Text
  tid : Option Int
deriving DecidableEq, Repr

/-- Fills a text up with spaces on the right. -/
def padRight (width : Nat) (s : Text) : Text :=
  s ++ Text.ofList (List.replicate (width - s.length) ' ')

/-- Fills a text up with spaces on the left. -/
def padLeft (width : Nat) (s : Text) : Text :=
  Text.ofList (List.replicate (width - s.length) ' ') ++ s

/-- The first characters of a text. -/
def firstChars (n : Nat) (s : Text) : Text :=
  Text.ofList (s.toList.take n)

/-- A text with the name of its style. -/
structure Styled where
  style : String
  text : Text
deriving DecidableEq, Repr

/-- The style of messages of a level. -/
def Level.style : Level → String
  | verbose => "lv"
  | debug => "ld"
  | info => "li"
  | warn => "lw"
  | error => "le"
  | assert => "la"

namespace Message

/-- The decimal text of the process number. -/
def pidText (m : Message) : Text := toString m.pid

/-- The decimal text of the process number, unless it has too many digits to be written. -/
def pidText? (m : Message) : Except Text.TooManyDigits Text :=
  (Text.writeInt m.pid).map Text.ofList

/-- The line of a message in an exported file. -/
def render (m : Message) : Text :=
  m.timestamp ++ ": " ++ m.level.letterText ++ "/" ++ m.tag ++ "(" ++ m.pidText ++ "): " ++ m.text

/-- The line of a message, unless its process number has too many digits to be written. -/
def render? (m : Message) : Except Text.TooManyDigits Text :=
  m.pidText?.map fun pid =>
    m.timestamp ++ ": " ++ m.level.letterText ++ "/" ++ m.tag ++ "(" ++ pid ++ "): " ++ m.text

/-- The row of a message: time, process and application in one style, then level, tag and text in
the style of the level. Application and tag are cut to twenty characters. -/
def row (m : Message) : List Styled :=
  [⟨"lmeta", padRight 18 m.timestamp ++ " " ++ padLeft 5 m.pidText ++ " "
      ++ padRight 20 (firstChars 20 m.app) ++ " "⟩,
    ⟨m.level.style, m.level.letterText ++ " " ++ padRight 20 (firstChars 20 m.tag) ++ " "
      ++ m.text⟩]

end Message

end LogViewer
