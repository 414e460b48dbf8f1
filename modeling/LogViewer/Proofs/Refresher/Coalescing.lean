import LogViewer.Refresher

/-!
# Coalesced refreshes, step by step

A task that runs asks the view whether it is at the latest message, draws it and may scroll it, and
each of these calls can make requests itself. So the refresher is followed through single events,
between which a task may have started and not finished. Whatever happens, a refresh is pending
exactly while one task waits to start.

## Main definitions

- `Refresher.Activity`, `Refresher.Event`: a refresher with its running task, and what can happen
- `Refresher.Step`, `Refresher.Run`: one event and a sequence of events

## Main statements

- `Refresher.InStep.step`: the state stays in step with the waiting tasks
- `Refresher.run_events`: a whole task is a sequence of events
- `Refresher.coalesced`: what holds after every sequence of events
-/

namespace LogViewer.Refresher

/-! ## §1 Events -/

/-- How far a running task has come. -/
inductive Stage where
  /-- The view is asked whether it is at the latest message. -/
  | asking
  /-- The view is drawn, and will then scroll or not. -/
  | drawing (follow : Bool)
  /-- The view scrolls to the latest message. -/
  | scrolling
deriving DecidableEq, Repr

/-- A refresher with the task that is running, if any. -/
structure Activity where
  refresher : Refresher
  running : Option Stage
deriving DecidableEq, Repr

/-- What can happen to a refresher. -/
inductive Event where
  /-- A request, from anywhere and at any time, with its answer. -/
  | request (scroll granted : Bool)
  | start
  | answer (atLatest : Bool)
  | drawn
  | scrolled
  /-- A call of the view fails, which ends the task. -/
  | fail
deriving DecidableEq, Repr

/-- Whether an event hands over a task. -/
def Event.handsOver : Event → Bool
  | request _ granted => granted
  | _ => false

/-- A refresher to which nothing has happened. -/
def Activity.idle : Activity := ⟨Refresher.idle, none⟩

/-- One event. -/
inductive Step : Activity → Event → Activity → Prop
  | request (r : Refresher) (running : Option Stage) (scroll : Bool) :
      Step ⟨r, running⟩ (.request scroll (r.request scroll).2) ⟨(r.request scroll).1, running⟩
  | start (r : Refresher) (waiting : 0 < r.outstanding) :
      Step ⟨r, none⟩ .start
        ⟨r.start.1, some (if r.start.2 then .drawing true else .asking)⟩
  | answer (r : Refresher) (atLatest : Bool) :
      Step ⟨r, some .asking⟩ (.answer atLatest) ⟨r, some (.drawing atLatest)⟩
  | drawn (r : Refresher) (follow : Bool) :
      Step ⟨r, some (.drawing follow)⟩ .drawn
        ⟨r.finish, if follow then some .scrolling else none⟩
  | scrolled (r : Refresher) : Step ⟨r, some .scrolling⟩ .scrolled ⟨r, none⟩
  | fail (r : Refresher) (stage : Stage) : Step ⟨r, some stage⟩ .fail ⟨r, none⟩

/-- A sequence of events, the first one first. -/
inductive Run : Activity → List Event → Activity → Prop
  | nil (a : Activity) : Run a [] a
  | concat {a b c : Activity} {events : List Event} {e : Event} :
      Run a events b → Step b e c → Run a (events ++ [e]) c

/-- A single event is a sequence. -/
theorem Step.run {a b : Activity} {e : Event} (h : Step a e b) : Run a [e] b :=
  .concat (.nil a) h

/-- One sequence after another. -/
theorem Run.append {a b c : Activity} {events more : List Event} (h : Run a events b)
    (h' : Run b more c) : Run a (events ++ more) c := by
  induction h' with
  | nil =>
    rw [List.append_nil]
    exact h
  | concat _ hstep ih =>
    rw [← List.append_assoc]
    exact .concat ih hstep

/-! ## §2 Whole tasks -/

/-- The requests made one after the other, as events. -/
def requestEvents (r : Refresher) (scrolls : List Bool) : List Event :=
  List.zipWith Event.request scrolls (r.requests scrolls).2

/-- Requests can be made whatever is running. -/
theorem requests_events (r : Refresher) (running : Option Stage) (scrolls : List Bool) :
    Run ⟨r, running⟩ (r.requestEvents scrolls) ⟨(r.requests scrolls).1, running⟩ := by
  induction scrolls generalizing r with
  | nil => exact .nil _
  | cons scroll scrolls ih =>
    exact (Step.request r running scroll).run.append (ih (r.request scroll).1)

/-- The events of a task with the requests made while the view is drawn. -/
def taskEvents (r : Refresher) (atLatest : Bool) (during : List Bool) : List Event :=
  .start :: ((if r.forced then [] else [.answer atLatest]) ++
    (r.start.1.requestEvents during ++
      .drawn :: (if r.forced || atLatest then [.scrolled] else [])))

/-- A task that waits runs as its events. -/
theorem run_events {r : Refresher} (h : 0 < r.outstanding) (atLatest : Bool) (during : List Bool) :
    Run ⟨r, none⟩ (r.taskEvents atLatest during) ⟨(r.run atLatest during).1, none⟩ := by
  -- Once the view is being drawn, it only matters whether it will scroll.
  have hdraw : ∀ follow : Bool, Run ⟨r.start.1, some (.drawing follow)⟩
      (r.start.1.requestEvents during ++ .drawn :: (if follow then [.scrolled] else []))
      ⟨(r.run atLatest during).1, none⟩ := by
    intro follow
    refine (requests_events r.start.1 _ during).append ?_
    cases follow with
    | true => exact (Step.drawn _ true).run.append (Step.scrolled _).run
    | false => exact (Step.drawn _ false).run
  have hstart := (Step.start r h).run
  -- A task that is forced to scroll does not ask the view.
  unfold taskEvents
  cases hforced : r.forced with
  | true =>
    have hstage : r.start.2 = true := hforced
    rw [hstage] at hstart
    exact hstart.append (hdraw true)
  | false =>
    have hstage : r.start.2 = false := hforced
    rw [hstage] at hstart
    exact hstart.append ((Step.answer _ atLatest).run.append (hdraw atLatest))

/-! ## §3 In step -/

/-- A refresh is pending exactly while one task waits. -/
def InStep (r : Refresher) : Prop :=
  r.outstanding = if r.pending then 1 else 0

theorem InStep.idle : InStep Refresher.idle := rfl

/-- A request is granted if nothing is pending, and then hands over a task. -/
theorem request_granted (r : Refresher) (scroll : Bool) : (r.request scroll).2 = !r.pending := by
  unfold request
  cases r.pending <;> rfl

/-- The tasks that wait after a request. -/
theorem request_outstanding (r : Refresher) (scroll : Bool) :
    (r.request scroll).1.outstanding = r.outstanding + if (r.request scroll).2 then 1 else 0 := by
  unfold request
  cases r.pending <;> rfl

/-- A refresh is pending after every request. -/
theorem request_pending (r : Refresher) (scroll : Bool) : (r.request scroll).1.pending = true := by
  unfold request
  cases r.pending <;> rfl

/-- A request serves nothing. -/
theorem request_served (r : Refresher) (scroll : Bool) : (r.request scroll).1.served = r.served := by
  unfold request
  cases r.pending <;> rfl

theorem InStep.request {r : Refresher} (h : InStep r) (scroll : Bool) :
    InStep (r.request scroll).1 := by
  unfold InStep at h ⊢
  rw [request_outstanding, request_pending, request_granted, h]
  cases r.pending <;> rfl

theorem InStep.start {r : Refresher} (h : InStep r) : InStep r.start.1 := by
  unfold InStep at h ⊢
  show r.outstanding - 1 = 0
  rw [h]
  split <;> rfl

theorem InStep.finish {r : Refresher} (h : InStep r) : InStep r.finish := h

/-- The state stays in step with the waiting tasks, whatever happens. -/
theorem InStep.step {a b : Activity} {e : Event} (h : InStep a.refresher) (hstep : Step a e b) :
    InStep b.refresher := by
  cases hstep with
  | request r running scroll => exact h.request scroll
  | start r waiting => exact h.start
  | answer r atLatest => exact h
  | drawn r follow => exact h.finish
  | scrolled r => exact h
  | fail r stage => exact h

/-! ## §4 Counting -/

/-- Every task that was handed over has started or waits. -/
theorem Step.balance {a b : Activity} {e : Event} (hstep : Step a e b) :
    a.refresher.outstanding + (if e.handsOver then 1 else 0)
      = b.refresher.outstanding + (if e = .start then 1 else 0) := by
  cases hstep with
  | request r running scroll =>
    rw [request_outstanding]
    rfl
  | start r waiting =>
    -- A task starts only if one waits, so the difference is no less than zero.
    show r.outstanding + 0 = (r.outstanding - 1) + 1
    omega
  | answer r atLatest => rfl
  | drawn r follow => rfl
  | scrolled r => rfl
  | fail r stage => rfl

/-- A refresh is served by each drawing that comes to its end. -/
theorem Step.served {a b : Activity} {e : Event} (hstep : Step a e b) :
    b.refresher.served = a.refresher.served + if e = .drawn then 1 else 0 := by
  cases hstep with
  | request r running scroll => simp [request_served]
  | start r waiting => rfl
  | answer r atLatest => rfl
  | drawn r follow => rfl
  | scrolled r => rfl
  | fail r stage => rfl

/-- The state is in step after every sequence of events. -/
theorem Run.inStep {a b : Activity} {events : List Event} (h : Run a events b)
    (hin : InStep a.refresher) : InStep b.refresher := by
  induction h with
  | nil => exact hin
  | concat _ hstep ih => exact ih.step hstep

/-- Every task that was handed over has started or waits, after every sequence of events. -/
theorem Run.balance {a b : Activity} {events : List Event} (h : Run a events b) :
    a.refresher.outstanding + events.countP Event.handsOver
      = b.refresher.outstanding + events.countP (· = .start) := by
  induction h with
  | nil => rfl
  | concat _ hstep ih =>
    have hlast := hstep.balance
    rw [List.countP_append, List.countP_append, List.countP_singleton, List.countP_singleton]
    simp only [decide_eq_true_eq]
    omega

/-- The drawings that came to their end are served, after every sequence of events. -/
theorem Run.served {a b : Activity} {events : List Event} (h : Run a events b) :
    b.refresher.served = a.refresher.served + events.countP (· = .drawn) := by
  induction h with
  | nil => rfl
  | concat _ hstep ih =>
    have hlast := hstep.served
    rw [List.countP_append, List.countP_singleton]
    simp only [decide_eq_true_eq]
    omega

/-- A request hands over a task exactly if it is answered so, and only while none waits. -/
theorem Step.granted_iff {a b : Activity} {scroll granted : Bool} (h : InStep a.refresher)
    (hstep : Step a (.request scroll granted) b) :
    (granted = true ↔ a.refresher.outstanding = 0 ∧ b.refresher.outstanding = 1) ∧
    (granted = false ↔ b.refresher.outstanding = a.refresher.outstanding) := by
  cases hstep with
  | request r running scroll =>
    -- While a task waits the request is absorbed, and otherwise it hands over the only one.
    have hr : r.outstanding = if r.pending then 1 else 0 := h
    simp only [request_outstanding, request_granted, hr]
    cases r.pending <;> simp

/-- After every sequence of events, a refresh is pending exactly if one task waits, and not pending
exactly if none does, and two never wait. Every task that was handed over has started or waits, a
request that is made now hands over a task exactly if the answer says so, and the refreshes that
count as served are the drawings that came to their end. -/
theorem coalesced {events : List Event} {a : Activity} (h : Run .idle events a) :
    (a.refresher.pending = true ↔ a.refresher.outstanding = 1) ∧
    (a.refresher.pending = false ↔ a.refresher.outstanding = 0) ∧
    a.refresher.outstanding ≤ 1 ∧
    events.countP Event.handsOver = events.countP (· = .start) + a.refresher.outstanding ∧
    (∀ scroll granted b, Step a (.request scroll granted) b →
      (granted = true ↔ a.refresher.outstanding = 0 ∧ b.refresher.outstanding = 1) ∧
      (granted = false ↔ b.refresher.outstanding = a.refresher.outstanding)) ∧
    a.refresher.served = events.countP (· = .drawn) := by
  have hin : InStep a.refresher := h.inStep .idle
  have hwaiting : a.refresher.outstanding = if a.refresher.pending then 1 else 0 := hin
  refine ⟨?_, ?_, ?_, ?_, fun scroll granted b hstep => hstep.granted_iff hin, ?_⟩
  · rw [hwaiting]
    cases a.refresher.pending <;> simp
  · rw [hwaiting]
    cases a.refresher.pending <;> simp
  · rw [hwaiting]
    cases a.refresher.pending <;> simp
  · have hbalance := h.balance
    simpa [Activity.idle, Refresher.idle, Nat.add_comm] using hbalance
  · have hserved := h.served
    simpa [Activity.idle, Refresher.idle] using hserved

/-- A request while a task draws the view hands over the next task, which the one after it joins. -/
theorem coalesced_whileDrawing :
    ∃ (events : List Event) (a : Activity),
      events = [.request false true, .start, .answer true, .request true true,
        .request false false, .drawn] ∧
      Run .idle events a ∧ a.running = some .scrolling ∧ a.refresher.pending = true ∧
      a.refresher.outstanding = 1 ∧ a.refresher.served = 1 := by
  have h₁ := (Step.request Refresher.idle none false).run
  -- From here on the first task runs.
  have h₂ := h₁.concat (.start _ (by decide))
  have h₃ := h₂.concat (.answer _ true)
  have h₄ := h₃.concat (.request _ _ true)
  have h₅ := h₄.concat (.request _ _ false)
  have h₆ := h₅.concat (.drawn _ true)
  obtain ⟨hpending, _, _, _, _, hserved⟩ := coalesced h₆
  exact ⟨_, _, rfl, h₆, rfl, rfl, hpending.1 rfl, hserved.trans rfl⟩

end LogViewer.Refresher
