import LogViewer.Processes

/-!
# Feeds of log lines

Lines become messages one after the other, with the names of processes learnt on the way. A feed is
handed on in batches of a given size. A number with too many digits ends the feed; what was handed
on before stays handed on.

## Main definitions

- `Processes.readLine`: the message of a line, if it is one, and the names after it
- `readLines`: the messages of some lines
- `Delivery`, `deliver`: the batches of a feed
- `adbCommand`: the command that prints the log of a device
-/

namespace LogViewer

open LogViewer.Text

/-! ## §1 Single lines -/

/-- The thread of a line. -/
def LogLine.readTid (l : LogLine) : Except TooManyDigits (Option Int) :=
  match l.tid with
  | none => .ok none
  | some digits => (readNat digits).map fun n => some (n : Int)

/-- The message of a parsed line, and the names after it. -/
def Processes.message (p : Processes) (l : LogLine) : Except TooManyDigits (Message × Processes) := do
  let tid ← l.readTid
  let pid ← readNat l.pid
  let p ← p.learn l.tag l.text
  return (⟨Text.ofList l.timestamp, pid, p.nameOf pid, Text.ofList l.tag, l.level,
    Text.ofList l.text, tid⟩, p)

/-- The message of a line, and the names after it; a line of neither shape is no message. -/
def Processes.readLine (p : Processes) (line : Text) :
    Except TooManyDigits (Option Message × Processes) :=
  match LogLine.read line.toList with
  | none => .ok (none, p)
  | some l => (p.message l).map fun r => (some r.1, r.2)

/-! ## §2 Many lines -/

/-- The messages of some lines, and the names after them. -/
def readLines (p : Processes) : List Text → Except TooManyDigits (List Message × Processes)
  | [] => .ok ([], p)
  | line :: rest => do
    let (m, p) ← p.readLine line
    let (ms, p) ← readLines p rest
    return (m.toList ++ ms, p)

/-- What a feed handed on. -/
structure Delivery where
  batches : List (List Message)
  /-- The fault that ended the feed, if it did not reach its end. -/
  fault : Option TooManyDigits
  names : Processes
deriving DecidableEq

/-- Hands messages on in batches of `size`, with the batch that is being filled. A size below one
counts as one. -/
def deliver (size : Nat) (p : Processes) (batch : List Message) : List Text → Delivery
  | [] => ⟨if batch.isEmpty then [] else [batch], none, p⟩
  | line :: rest =>
    match p.readLine line with
    | .error e => ⟨[], some e, p⟩
    | .ok (none, p) => deliver size p batch rest
    | .ok (some m, p) =>
      let batch := batch ++ [m]
      if size ≤ batch.length then
        let more := deliver size p [] rest
        { more with batches := batch :: more.batches }
      else deliver size p batch rest

/-- How many messages were handed on. -/
def Delivery.total (d : Delivery) : Nat := d.batches.flatten.length

/-! ## §3 The source -/

/-- The command that prints the log of a device, of a given one if its serial number is not
empty. -/
def adbCommand (serial : Option Text) : List Text :=
  let device : List Text := match serial with
    | some s => if s.isEmpty then [] else ["-s", s]
    | none => []
  [("adb" : Text)] ++ device ++ [("logcat" : Text), "-v", "threadtime"]

end LogViewer
