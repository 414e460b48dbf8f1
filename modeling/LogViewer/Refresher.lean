/-!
# Coalesced refreshes

Messages can arrive much faster than a screen can be drawn. The refresher keeps at most one refresh
outstanding: the first request hands over a task, and further requests are absorbed until that task
starts. A request may ask to scroll to the latest message; the next task to start then does so.

## Main definitions

- `Refresher`: the state
- `Refresher.request`: asks for a refresh
- `Refresher.start`, `Refresher.finish`: a task that starts and one whose view is drawn
- `Refresher.run`: a whole task with the requests made while the view is drawn
-/

namespace LogViewer

/-- The state between requests and tasks. -/
structure Refresher where
  /-- A task is handed over and has not started. -/
  pending : Bool
  /-- The next task scrolls to the latest message. -/
  forced : Bool
  /-- How many tasks are handed over and have not started. -/
  outstanding : Nat
  /-- How many refreshes are done. -/
  served : Nat
deriving DecidableEq, Repr

/-- What a task asks of the view. -/
inductive ViewCall where
  | isAtLatest
  | refresh
  | scroll
deriving DecidableEq, Repr

/-- The name of a call. -/
def ViewCall.name : ViewCall → String
  | isAtLatest => "is_at_latest"
  | refresh => "refresh"
  | scroll => "scroll"

namespace Refresher

/-- Nothing is requested. -/
def idle : Refresher := ⟨false, false, 0, 0⟩

/-- The name of the state. -/
def stateName (r : Refresher) : String :=
  if r.pending then "refresh-pending" else "idle"

/-- Asks for a refresh; says whether that handed over a task. -/
def request (r : Refresher) (scroll : Bool) : Refresher × Bool :=
  let forced := r.forced || scroll
  if r.pending then ({ r with forced }, false)
  else ({ r with forced, pending := true, outstanding := r.outstanding + 1 }, true)

/-- Asks for several refreshes, one after the other. -/
def requests (r : Refresher) : List Bool → Refresher × List Bool
  | [] => (r, [])
  | scroll :: rest =>
    let (r, granted) := r.request scroll
    let (r, more) := r.requests rest
    (r, granted :: more)

/-- Starts a task: the state is idle before the view is drawn, so that requests from then on hand
over the next task. Gives whether to scroll in any case. -/
def start (r : Refresher) : Refresher × Bool :=
  ({ r with pending := false, forced := false, outstanding := r.outstanding - 1 }, r.forced)

/-- Counts a refresh as done. -/
def finish (r : Refresher) : Refresher :=
  { r with served := r.served + 1 }

/-- What a task asks of a view, where the view's position is sampled only if it matters. -/
def calls (forced atLatest : Bool) : List ViewCall :=
  (if forced then [] else [.isAtLatest]) ++ [.refresh]
    ++ (if forced || atLatest then [.scroll] else [])

/-- Runs a task on a view that is at the latest message or not, with the requests made while the
view is drawn. Gives the answers to the requests and the calls of the view. -/
def run (r : Refresher) (atLatest : Bool) (during : List Bool) :
    Refresher × List Bool × List ViewCall :=
  let (r, forced) := r.start
  let (r, granted) := r.requests during
  (r.finish, granted, calls forced atLatest)

end Refresher

end LogViewer
