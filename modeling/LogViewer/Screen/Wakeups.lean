import LogViewer.Text.Basic

/-!
# Wake-ups

Tasks for the screen can come from anywhere, but they run on the screen's own loop. A task is put in
a queue and a byte is written that wakes the loop. If the byte cannot be written, the task stays in
the queue and runs when the loop wakes up for another reason.

## Main definitions

- `Wakeups`: the queue and the bytes that the loop has not read
- `Wakeups.schedule`, `Wakeups.wake`
-/

namespace LogViewer

/-- Tasks that wait, and bytes that were written and not read. -/
structure Wakeups where
  queued : Nat
  bytes : Nat
deriving DecidableEq, Repr

namespace Wakeups

/-- Nothing waits. -/
def empty : Wakeups := ⟨0, 0⟩

/-- The warning when the byte cannot be written. -/
def warning : Text := "could not wake the UI for a refresh: [Errno 9] Bad file descriptor"

/-- Puts a task in the queue; `writable` says whether the byte can be written. Gives the
warnings. -/
def schedule (w : Wakeups) (writable : Bool) : Wakeups × List Text :=
  if writable then (⟨w.queued + 1, w.bytes + 1⟩, [])
  else (⟨w.queued + 1, w.bytes⟩, [warning])

/-- Wakes the loop, which reads all bytes and runs all tasks; gives how many ran. -/
def wake (w : Wakeups) : Wakeups × Nat :=
  (empty, w.queued)

end Wakeups

end LogViewer
