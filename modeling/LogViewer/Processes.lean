import LogViewer.LogLine
import LogViewer.Message

/-!
# Process names

Log lines hold process numbers but no names. Names are learnt from the lines of the activity
manager: a start line gives a number its name, and a death line takes it away.

    Start proc 1234:com.example/u0a1 for activity
    Start proc com.example for activity com.example/.Main: pid=1234 uid=10001
    Process com.example (pid 1234) has died

## Main definitions

- `Processes`: the names that are known
- `ProcessEvent.read`: the event of a text
- `Processes.apply`: the effect of an event
-/

namespace LogViewer

open LogViewer.Text

/-! ## §1 Tables of names -/

/-- The names of processes by number; a number occurs once. -/
abbrev Processes := List (Nat × Text)

namespace Processes

/-- No name is known. -/
def empty : Processes := []

/-- The name of a process. -/
def name? (p : Processes) (pid : Nat) : Option Text := p.lookup pid

/-- Forgets a process. -/
def erase (p : Processes) (pid : Nat) : Processes := p.filter (·.1 != pid)

/-- Gives a process a name. -/
def insert (p : Processes) (pid : Nat) (name : Text) : Processes := (pid, name) :: p.erase pid

/-- What an unknown process is called. -/
def unknown : Text := "?"

/-- The name to show for a process. -/
def nameOf (p : Processes) (pid : Nat) : Text := (p.name? pid).getD unknown

end Processes

/-! ## §2 Events -/

/-- What a line of the activity manager tells; numbers are still digits. -/
inductive ProcessEvent where
  | started (pid : List CodePoint) (name : List CodePoint)
  | died (pid : List CodePoint)
deriving DecidableEq, Repr

namespace ProcessEvent

/-- The tag of the lines that tell events. -/
def teller : Text := "ActivityManager"

/-- A character of a process name. -/
def isNameChar (c : CodePoint) : Bool :=
  ('a' ≤ c && c ≤ 'z') || ('A' ≤ c && c ≤ 'Z') || ('0' ≤ c && c ≤ '9') || c == '.' || c == '_'
    || c == ':'

/-- A character of a user name. -/
def isUserChar (c : CodePoint) : Bool :=
  ('a' ≤ c && c ≤ 'z') || ('0' ≤ c && c ≤ '9')

/-- A row of at least one character of a class, and what follows it. -/
def run? (holds : CodePoint → Bool) (s : List CodePoint) :
    Option (List CodePoint × List CodePoint) :=
  match s.takeWhile holds with
  | [] => none
  | cs => some (cs, s.dropWhile holds)

/-- What follows a given beginning. -/
def after? (beginning s : List CodePoint) : Option (List CodePoint) :=
  if beginning.isPrefixOf s then some (s.drop beginning.length) else none

/-- A start line with the number first. -/
def numberedStart? (s : List CodePoint) : Option ProcessEvent := do
  let s ← after? (Text.toList "Start proc ") s
  let (pid, s) ← LogLine.digits? s
  let s ← LogLine.char? ':' s
  let (name, s) ← run? isNameChar s
  let s ← LogLine.char? '/' s
  let (_, s) ← run? isUserChar s
  let _ ← after? (Text.toList " for ") s
  return .started pid name

/-- The first number that is announced in a text and followed by a space. -/
def announcedPid? : List CodePoint → Option (List CodePoint)
  | [] => none
  | c :: rest =>
    match (do
      let s ← after? (Text.toList ": pid=") (c :: rest)
      let (pid, s) ← LogLine.digits? s
      let _ ← LogLine.char? ' ' s
      return pid) with
    | some pid => some pid
    | none => if c = '\n' then none else announcedPid? rest

/-- A start line with the name first. -/
def namedStart? (s : List CodePoint) : Option ProcessEvent := do
  let s ← after? (Text.toList "Start proc ") s
  let (name, s) ← run? isNameChar s
  let s ← after? (Text.toList " for ") s
  let pid ← announcedPid? s
  return .started pid name

/-- A death line. -/
def death? (s : List CodePoint) : Option ProcessEvent := do
  let s ← after? (Text.toList "Process ") s
  let (_, s) ← run? isNameChar s
  let s ← after? (Text.toList " (pid ") s
  let (pid, s) ← LogLine.digits? s
  let _ ← after? (Text.toList ") has died") s
  return .died pid

/-- The event of a text. -/
def read (s : List CodePoint) : Option ProcessEvent :=
  (numberedStart? s).or ((namedStart? s).or (death? s))

end ProcessEvent

namespace Processes

/-- The names after an event; its number may have too many digits. -/
def apply (p : Processes) : ProcessEvent → Except TooManyDigits Processes
  | .started pid name => (readNat pid).map fun n => p.insert n (Text.ofList name)
  | .died pid => (readNat pid).map p.erase

/-- The names after a line with a tag and a text. -/
def learn (p : Processes) (tag text : List CodePoint) : Except TooManyDigits Processes :=
  if tag = ProcessEvent.teller.toList then
    match ProcessEvent.read text with
    | some e => p.apply e
    | none => .ok p
  else .ok p

end Processes

end LogViewer
