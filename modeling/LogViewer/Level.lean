import LogViewer.Text.Blank
import LogViewer.Text.Case
import LogViewer.Text.Quoted

/-!
# Log levels

Six levels in order of severity. A level is written as its letter or its name in either case, with
white space around it; the letter F is another way to write the highest level.

## Main definitions

- `Level`, ordered by `Level.priority`
- `Level.parse`: reads a level
- `UnknownLevel`: why a text is none
-/

namespace LogViewer

/-- The severity of a message. -/
inductive Level where
  | verbose
  | debug
  | info
  | warn
  | error
  | assert
deriving DecidableEq, Repr, Inhabited

/-- A value that is no level, as it is shown. -/
structure UnknownLevel where
  shown : Text
deriving DecidableEq, Repr

/-- The text of the complaint. -/
def UnknownLevel.message (e : UnknownLevel) : Text :=
  "unknown log level: " ++ e.shown

namespace Level

/-- All levels from the lowest to the highest. -/
def all : List Level := [verbose, debug, info, warn, error, assert]

/-- The number that orders the levels. -/
def priority : Level → Nat
  | verbose => 2
  | debug => 3
  | info => 4
  | warn => 5
  | error => 6
  | assert => 7

/-- The letter of a level in log lines. -/
def letter : Level → CodePoint
  | verbose => 'V'
  | debug => 'D'
  | info => 'I'
  | warn => 'W'
  | error => 'E'
  | assert => 'A'

/-- The name of a level. -/
def name : Level → Text
  | verbose => "VERBOSE"
  | debug => "DEBUG"
  | info => "INFO"
  | warn => "WARN"
  | error => "ERROR"
  | assert => "ASSERT"

/-- The letter of a level as a text. -/
def letterText (l : Level) : Text := .ofList [l.letter]

instance : LE Level := ⟨fun a b => a.priority ≤ b.priority⟩

instance : LT Level := ⟨fun a b => a.priority < b.priority⟩

instance (a b : Level) : Decidable (a ≤ b) := inferInstanceAs (Decidable (a.priority ≤ b.priority))

instance (a b : Level) : Decidable (a < b) := inferInstanceAs (Decidable (a.priority < b.priority))

instance : Max Level := ⟨fun a b => if a ≤ b then b else a⟩

/-- The level written by an upper case text. -/
def ofUpper? (text : List CodePoint) : Option Level :=
  if text = [('F' : CodePoint)] then some assert
  else all.find? fun l => text = [l.letter] || text = l.name.toList

/-- Reads a level from the characters of a text. -/
def ofChars? (text : List CodePoint) : Option Level :=
  ofUpper? ((Text.trim text).flatMap Text.asciiUpper)

/-- Reads a level. -/
def parse (text : Text) : Except UnknownLevel Level :=
  match ofChars? text.toList with
  | some l => .ok l
  | none => .error ⟨Text.quoted text⟩

/-- Moves by some steps towards the highest or the lowest level and stops there. -/
def shift (l : Level) (step : Int) : Level :=
  let i := (l.priority : Int) - 2 + step
  (all[(max 0 (min 5 i)).toNat]?).getD l

end Level

end LogViewer
