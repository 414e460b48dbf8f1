import LogViewer.Proofs.Screen.Events
import LogViewer.Proofs.Trace
import LogViewer.Screen.Wakeups

/-!
# Wake-ups that are refused

The refreshes of an attached screen are tasks for its loop. A request that hands over a task puts it
in the queue and writes a byte; the byte wakes the loop, which then runs tasks until the queue is
empty. If the byte cannot be written, the task stays in the queue, and nobody but the queue knows of
it: the refresher takes the refresh for one that is on its way and absorbs all further requests, so
none of them writes a byte.

So the queued task is stranded. It is, exactly if the byte of the last task was refused while the
loop slept and no other byte was waiting, and then the loop never wakes up again.

## Main definitions

- `Screen.Loop`: a screen with the queue, the unread bytes and its loop
- `Loop.Event`, `Loop.Step`, `Loop.Run`: what can happen
- `Loop.Stranded`: a task is queued, and nothing will run it
- `Loop.Refused`: how that comes about

## Main statements

- `Loop.run_wake`: a whole wake-up is a sequence of events
- `Loop.Sound.step`: the queue holds what the refresher takes for outstanding
- `Loop.stranded_iff_refused`: when a task is stranded, and that it stays so
- `Loop.not_written_stranded`: the next request does not write a byte for a stranded task
-/

namespace LogViewer.Screen

/-! ## §1 Events -/

/-- A screen on the loop that runs its tasks. -/
structure Loop where
  viewing : Viewing
  wakeups : Wakeups
  /-- The loop has woken up and runs tasks until none is queued. -/
  awake : Bool

namespace Loop

/-- The panel that is shown. -/
def panel (l : Loop) : Panel := l.viewing.panel

/-- A screen that is not attached yet, on a loop that sleeps. -/
def ofScreen (s : Screen) : Loop := ⟨⟨s, none⟩, .empty, false⟩

/-- What can happen. -/
inductive Event where
  /-- The screen is attached, which asks for the first refresh; its byte is written or refused. -/
  | attach (written : Bool)
  /-- An operation on the panel. If it hands over a task, the byte is written or refused. -/
  | op (op : Panel.Op) (write : Option Bool)
  /-- The loop wakes up and reads all bytes. -/
  | wake
  /-- The task that runs goes on, or the next one starts. -/
  | view (e : Screen.Event)
  /-- The queue is empty, and the loop goes to sleep. -/
  | sleep

/-- What became of the byte, if one was to be written. -/
def Event.write? : Event → Option Bool
  | attach written => some written
  | op _ write => write
  | _ => none

/-- Whether an event is an operation on the panel. -/
def Event.isOp : Event → Bool
  | op _ _ => true
  | _ => false

/-- Whether an operation hands over a task. -/
def handsOver (p : Panel) (op : Panel.Op) : Bool := p.outstanding < (p.step op).outstanding

/-- How many tasks an event takes from the queue. -/
def taken : Screen.Event → Nat
  | .start => 1
  | _ => 0

/-- One event. -/
inductive Step : Loop → Event → Loop → Prop
  | attach (s : Screen) (w : Wakeups) (written : Bool) (detached : s.panel.refresher = none) :
      Step ⟨⟨s, none⟩, w, false⟩ (.attach written)
        ⟨⟨s.attach, none⟩, (w.schedule written).1, false⟩
  | quiet (s : Screen) (running : Option Task) (w : Wakeups) (awake : Bool) (op : Panel.Op)
      (absorbed : handsOver s.panel op = false) :
      Step ⟨⟨s, running⟩, w, awake⟩ (.op op none) ⟨⟨s.operate op, running⟩, w, awake⟩
  | request (s : Screen) (running : Option Task) (w : Wakeups) (awake : Bool) (op : Panel.Op)
      (written : Bool) (hands : handsOver s.panel op = true) :
      Step ⟨⟨s, running⟩, w, awake⟩ (.op op (some written))
        ⟨⟨s.operate op, running⟩, (w.schedule written).1, awake⟩
  | wake (v : Viewing) (w : Wakeups) (woken : 0 < w.bytes) :
      Step ⟨v, w, false⟩ .wake ⟨v, { w with bytes := 0 }, true⟩
  | view (v v' : Viewing) (w : Wakeups) (e : Screen.Event) (step : Screen.Step v e v')
      (internal : ∀ op, e ≠ .op op) (queued : taken e ≤ w.queued) :
      Step ⟨v, w, true⟩ (.view e) ⟨v', { w with queued := w.queued - taken e }, true⟩
  | sleep (s : Screen) (w : Wakeups) (done : w.queued = 0) :
      Step ⟨⟨s, none⟩, w, true⟩ .sleep ⟨⟨s, none⟩, w, false⟩

/-- A running task that takes nothing from the queue leaves it alone. -/
theorem Step.go {v v' : Viewing} {w : Wakeups} {e : Screen.Event} (h : Screen.Step v e v')
    (internal : ∀ op, e ≠ .op op) (hnone : taken e = 0) :
    Step ⟨v, w, true⟩ (.view e) ⟨v', w, true⟩ := by
  have hstep := Step.view v v' w e h internal (by rw [hnone]; exact Nat.zero_le _)
  rw [hnone] at hstep
  exact hstep

/-- A sequence of events, the first one first. -/
abbrev Run : Loop → List Event → Loop → Prop := Trace Step

/-! ## §2 The queue -/

/-- The queue holds the tasks that the refresher takes for outstanding, and no task runs while the
loop sleeps. -/
structure Sound (l : Loop) : Prop where
  queued : l.wakeups.queued = l.panel.outstanding
  inStep : ∀ r, l.panel.refresher = some r → r.InStep
  idle : l.awake = false → l.viewing.running = none

theorem Sound.queued_le {l : Loop} (h : Sound l) : l.wakeups.queued ≤ 1 := by
  rw [h.queued]
  unfold Panel.outstanding
  cases hr : l.panel.refresher with
  | none => exact Nat.zero_le 1
  | some r =>
    have hstep : r.outstanding = if r.pending then 1 else 0 := h.inStep r hr
    show r.outstanding ≤ 1
    rw [hstep]
    cases r.pending <;> decide

/-- A request hands over a task exactly if none is outstanding. -/
theorem handsOver_of_asks {p : Panel} {op : Panel.Op} {r : Refresher} (hr : p.refresher = some r)
    (hin : r.InStep) (hasks : p.Asks op) : handsOver p op = decide (r.outstanding = 0) := by
  obtain ⟨scroll, hasks⟩ := hasks
  have hr' : (p.step op).refresher = some (r.request scroll).1 := by
    rw [hasks, hr]
    rfl
  have hwaiting : r.outstanding = if r.pending then 1 else 0 := hin
  unfold handsOver
  rw [outstanding_of_attached hr, outstanding_of_attached hr', Refresher.request_outstanding,
    Refresher.request_granted, hwaiting]
  cases r.pending <;> rfl

/-- The tasks that are outstanding after an operation, and that the state stays in step with them.
-/
theorem outstanding_step {p : Panel} (hin : ∀ r, p.refresher = some r → r.InStep) (op : Panel.Op) :
    (p.step op).outstanding = p.outstanding + (if handsOver p op then 1 else 0) ∧
      (∀ r, (p.step op).refresher = some r → r.InStep) ∧
      (handsOver p op = true → p.outstanding = 0) := by
  rcases p.asks_or_quiet op with hasks | ⟨hsilent, _⟩
  · cases hr : p.refresher with
    | none =>
      -- Without a view there is nobody to ask.
      have hr' : (p.step op).refresher = none := by
        obtain ⟨scroll, hasks⟩ := hasks
        rw [hasks, hr]
        rfl
      unfold handsOver Panel.outstanding
      simp [hr, hr']
    | some r =>
      have hhands := handsOver_of_asks hr (hin r hr) hasks
      obtain ⟨scroll, hasks⟩ := hasks
      have hr' : (p.step op).refresher = some (r.request scroll).1 := by
        rw [hasks, hr]
        rfl
      have hwaiting : r.outstanding = if r.pending then 1 else 0 := hin r hr
      have hnext : ∀ r', (p.step op).refresher = some r' → r'.InStep := by
        intro r' hsome
        obtain rfl : (r.request scroll).1 = r' := Option.some.inj (hr'.symm.trans hsome)
        exact (hin r hr).request scroll
      refine ⟨?_, hnext, ?_⟩
      · rw [hhands, outstanding_of_attached hr, outstanding_of_attached hr',
          Refresher.request_outstanding, Refresher.request_granted, hwaiting]
        cases r.pending <;> rfl
      · intro htrue
        rw [outstanding_of_attached hr]
        exact of_decide_eq_true (hhands.symm.trans htrue)
  · have hr' : (p.step op).refresher = p.refresher := hsilent
    have hsame : (p.step op).outstanding = p.outstanding := by
      unfold Panel.outstanding
      rw [hr']
    have hnone : handsOver p op = false := by
      unfold handsOver
      rw [hsame, decide_eq_false (Nat.lt_irrefl _)]
    rw [hnone, hr']
    exact ⟨hsame, hin, by simp⟩

/-- The tasks that are outstanding after a running task has gone on. -/
theorem outstanding_view {v v' : Viewing} {e : Screen.Event} (h : Screen.Step v e v')
    (internal : ∀ op, e ≠ .op op) (hin : ∀ r, v.panel.refresher = some r → r.InStep) :
    v'.panel.outstanding = v.panel.outstanding - taken e ∧
      ∀ r, v'.panel.refresher = some r → r.InStep := by
  cases h with
  | op s running op => exact absurd rfl (internal op)
  | start s r attached waiting =>
    have hr : (s.begin r).panel.refresher = some r.start.1 := rfl
    have hout : (s.begin r).panel.outstanding = s.panel.outstanding - 1 := by
      rw [outstanding_of_attached hr, outstanding_of_attached attached]
      rfl
    refine ⟨hout, ?_⟩
    intro r' hr'
    obtain rfl : r.start.1 = r' := Option.some.inj (hr.symm.trans hr')
    exact (hin r attached).start
  | read s forced => exact ⟨rfl, hin⟩
  | draw s follow messages =>
    -- Drawing counts the refresh, which no task waits for.
    have hr : (s.drawMessages messages).countRefresh.panel.refresher
        = s.panel.refresher.map Refresher.finish := rfl
    have hout : (s.drawMessages messages).countRefresh.panel.outstanding = s.panel.outstanding := by
      unfold Panel.outstanding
      rw [hr]
      cases s.panel.refresher <;> rfl
    refine ⟨hout, ?_⟩
    intro r' hr'
    obtain ⟨r, hsome, rfl⟩ := Option.map_eq_some_iff.1 (hr.symm.trans hr')
    exact (hin r hsome).finish
  | scroll s follow =>
    have hpanel : (if follow then s.scrollToLatest else s).panel = s.panel := by
      obtain ⟨focus, hscroll⟩ := s.scrollToLatest_eq
      cases follow with
      | true =>
        show s.scrollToLatest.panel = s.panel
        rw [hscroll]
      | false => rfl
    show (if follow then s.scrollToLatest else s).panel.outstanding = s.panel.outstanding - 0 ∧
      ∀ r, (if follow then s.scrollToLatest else s).panel.refresher = some r → r.InStep
    rw [hpanel]
    exact ⟨rfl, hin⟩

theorem queued_schedule (w : Wakeups) (written : Bool) :
    (w.schedule written).1.queued = w.queued + 1 := by
  cases written <;> rfl

/-- The queue and the refresher stay in step, whatever happens. -/
theorem Sound.step {l m : Loop} {e : Event} (h : Sound l) (hstep : Step l e m) : Sound m := by
  obtain ⟨hqueued, hin, hidle⟩ := h
  cases hstep with
  -- Before it was attached, the panel could ask for nothing.
  | attach s w written detached =>
    have hnone : w.queued = 0 := by
      have hzero : s.panel.outstanding = 0 := by
        unfold Panel.outstanding
        rw [detached]
      exact hqueued.trans hzero
    refine ⟨?_, ?_, fun _ => rfl⟩
    · show (w.schedule written).1.queued = 1
      rw [queued_schedule, hnone]
    · intro r hr
      obtain rfl : (Refresher.idle.request true).1 = r := Option.some.inj hr
      exact Refresher.InStep.idle.request true
  | quiet s running w awake op absorbed =>
    -- A request that is absorbed brings no task into the queue.
    obtain ⟨hout, hnext, _⟩ := outstanding_step (p := s.panel) hin op
    rw [absorbed] at hout
    have hsame : (s.panel.step op).outstanding = s.panel.outstanding := hout
    exact ⟨hqueued.trans hsame.symm, hnext, hidle⟩
  | request s running w awake op written hands =>
    -- One that hands over a task brings it into the queue, whether or not the byte is written.
    obtain ⟨hout, hnext, _⟩ := outstanding_step (p := s.panel) hin op
    rw [hands] at hout
    have hmore : (s.panel.step op).outstanding = s.panel.outstanding + 1 := hout
    refine ⟨?_, hnext, hidle⟩
    show (w.schedule written).1.queued = (s.panel.step op).outstanding
    rw [queued_schedule, hmore]
    exact congrArg (· + 1) hqueued
  | wake v w woken => exact ⟨hqueued, hin, by simp⟩
  | view v v' w e step internal queued =>
    -- Of the steps of a task only the first takes one from the queue.
    obtain ⟨hout, hnext⟩ := outstanding_view step internal hin
    refine ⟨?_, hnext, by simp⟩
    show w.queued - taken e = v'.panel.outstanding
    rw [hout]
    exact congrArg (· - taken e) hqueued
  | sleep s w done => exact ⟨hqueued, hin, fun _ => rfl⟩

/-- A loop on which nothing has happened is in step. -/
theorem Sound.ofScreen {s : Screen} (h : s.panel.refresher = none) : Sound (ofScreen s) where
  queued := by
    show 0 = s.panel.outstanding
    unfold Panel.outstanding
    rw [h]
  inStep := by
    intro r hr
    rw [show s.panel.refresher = some r from hr] at h
    cases h
  idle := fun _ => rfl

/-- The queue and the refresher are in step after every sequence of events. -/
theorem Sound.run {l m : Loop} {events : List Event} (hl : Sound l) (h : Run l events m) :
    Sound m :=
  h.invariant (fun _ _ _ hsound hstep => hsound.step hstep) hl

/-! ## §3 Wake-ups -/

/-- The events of a wake-up that finds one task. -/
def wakeEvents : List Event :=
  [.wake, .view .start, .view .read, .view .draw, .view .scroll, .sleep]

/-- A task that is queued runs when the loop wakes up, which leaves neither a task nor a byte. -/
theorem run_wake {s : Screen} {w : Wakeups} (h : Sound ⟨⟨s, none⟩, w, false⟩) (hone : w.queued = 1)
    (hbytes : 0 < w.bytes) :
    Run ⟨⟨s, none⟩, w, false⟩ wakeEvents ⟨⟨s.runTask.1, none⟩, w.wake.1, false⟩ := by
  have hout : s.panel.outstanding = 1 := h.queued.symm.trans hone
  obtain ⟨r, hr⟩ : ∃ r, s.panel.refresher = some r := by
    unfold Panel.outstanding at hout
    cases hr : s.panel.refresher with
    | none =>
      rw [hr] at hout
      cases hout
    | some r => exact ⟨r, rfl⟩
  have hwaiting : 0 < r.outstanding := by
    rw [← outstanding_of_attached hr, hout]
    exact Nat.one_pos
  -- A task that waits is the one that `runTask` runs.
  have htask : s.runTask.1 = draw (s.begin r) r.start.2 := by
    unfold runTask
    rw [hr]
    simp only [if_neg (Nat.ne_of_gt hwaiting)]
    rfl
  -- The byte is read first, and the queue is empty when the task has ended.
  have hwoken : Run ⟨⟨s, none⟩, w, false⟩ [.wake] ⟨⟨s, none⟩, { w with bytes := 0 }, true⟩ :=
    .single (.wake _ w hbytes)
  have hstart := hwoken.concat
    (.view _ _ _ .start (.start s r hr hwaiting) (by simp) (Nat.le_of_eq hone.symm))
  have hread := hstart.concat (.go (.read _ _) (by simp) rfl)
  have hdraw := hread.concat (.go (.draw _ _ _) (by simp) rfl)
  have hscroll := hdraw.concat (.go (.scroll _ _) (by simp) rfl)
  have hsleep := hscroll.concat (.sleep _ _ (congrArg (· - 1) hone))
  have hempty : w.wake.1 = ⟨w.queued - 1, 0⟩ := by
    rw [hone]
    rfl
  rw [htask, hempty]
  exact hsleep

/-- A running task comes to its end, if nothing else happens. -/
theorem run_finish (v : Viewing) (w : Wakeups) :
    ∃ events s, Run ⟨v, w, true⟩ events ⟨⟨s, none⟩, w, true⟩ ∧ ∀ e ∈ events, e.isOp = false := by
  -- One step for each stage that is left; none of them takes a task from the queue.
  have hscroll : ∀ s follow, ∃ s', Run ⟨⟨s, some (.drawn follow)⟩, w, true⟩ [.view .scroll]
      ⟨⟨s', none⟩, w, true⟩ := by
    intro s follow
    exact ⟨_, .single (.go (.scroll s follow) (by simp) rfl)⟩
  have hdraw : ∀ s follow messages, ∃ s', Run ⟨⟨s, some (.reading follow messages)⟩, w, true⟩
      ([.view .draw] ++ [.view .scroll]) ⟨⟨s', none⟩, w, true⟩ := by
    intro s follow messages
    obtain ⟨s', hrest⟩ := hscroll (s.drawMessages messages).countRefresh follow
    exact ⟨s', Trace.append (.single (.go (.draw s follow messages) (by simp) rfl)) hrest⟩
  obtain ⟨s, running⟩ := v
  match running with
  | none => exact ⟨[], s, .nil _, by simp⟩
  | some (.drawn follow) =>
    obtain ⟨s', hrest⟩ := hscroll s follow
    exact ⟨_, s', hrest, by simp [Event.isOp]⟩
  | some (.reading follow messages) =>
    obtain ⟨s', hrest⟩ := hdraw s follow messages
    exact ⟨_, s', hrest, by simp [Event.isOp]⟩
  | some (.started forced) =>
    obtain ⟨s', hrest⟩ := hdraw s (forced || s.isAtLatest) s.panel.visible
    exact ⟨_, s', Trace.append (.single (.go (.read s forced) (by simp) rfl)) hrest,
      by simp [Event.isOp]⟩

/-- While the loop is awake, a queued task starts in the end, if nothing else happens. -/
theorem run_queued {v : Viewing} {w : Wakeups} (h : Sound ⟨v, w, true⟩) (hqueued : 0 < w.queued) :
    ∃ events m, Run ⟨v, w, true⟩ events m ∧ .view .start ∈ events ∧
      (∀ e ∈ events, e.isOp = false) ∧ m.wakeups.queued = 0 := by
  obtain ⟨events, s, hfinish, hops⟩ := run_finish v w
  obtain ⟨hsame, _, _⟩ := h.run hfinish
  -- Finishing the running task leaves the queue alone, so the queued task is still outstanding.
  have hwaiting : 0 < s.panel.outstanding := hsame ▸ hqueued
  have hone : w.queued ≤ 1 := h.queued_le
  cases hr : s.panel.refresher with
  | none =>
    unfold Panel.outstanding at hwaiting
    rw [hr] at hwaiting
    exact absurd hwaiting (Nat.lt_irrefl 0)
  | some r =>
    rw [outstanding_of_attached hr] at hwaiting
    have hstart := hfinish.concat
      (.view _ _ _ .start (.start s r hr hwaiting) (by simp) hqueued)
    refine ⟨_, _, hstart, by simp, ?_, ?_⟩
    · intro e he
      rcases List.mem_append.1 he with he | he
      · exact hops e he
      · obtain rfl := List.mem_singleton.1 he
        rfl
    · show w.queued - 1 = 0
      omega

/-! ## §4 Stranded tasks -/

/-- A task is queued, no byte is there to wake the loop, and the loop sleeps. -/
def Stranded (l : Loop) : Prop :=
  0 < l.wakeups.queued ∧ l.wakeups.bytes = 0 ∧ l.awake = false

/-- With a stranded task nothing can happen but operations, which write no byte. -/
theorem Stranded.eq_of_step {l m : Loop} {e : Event} (h : Stranded l) (hsound : Sound l)
    (hstep : Step l e m) : ∃ op, e = .op op none ∧
      m = ⟨⟨l.viewing.screen.operate op, l.viewing.running⟩, l.wakeups, l.awake⟩ := by
  obtain ⟨hqueued, hbytes, hasleep⟩ := h
  cases hstep with
  | attach s w written detached =>
    -- Before the screen is attached nothing is queued.
    have hzero : w.queued = 0 := by
      have hout : w.queued = s.panel.outstanding := hsound.queued
      rw [hout]
      unfold Panel.outstanding
      rw [detached]
    exact absurd hzero (Nat.ne_of_gt hqueued)
  | quiet s running w awake op absorbed => exact ⟨op, rfl, rfl⟩
  | request s running w awake op written hands =>
    -- A task is handed over only if none is outstanding.
    obtain ⟨_, _, hnone⟩ := outstanding_step (p := s.panel) hsound.inStep op
    have hzero : w.queued = 0 := hsound.queued.trans (hnone hands)
    exact absurd hzero (Nat.ne_of_gt hqueued)
  | wake v w woken => exact absurd hbytes (Nat.ne_of_gt woken)
  | view v v' w e step internal queued => cases hasleep
  | sleep s w done => cases hasleep

/-- A stranded task stays stranded. The panel goes on, and the screen is never drawn again. -/
theorem Stranded.run {l m : Loop} {events : List Event} (h : Stranded l) (hsound : Sound l)
    (hrun : Run l events m) : Stranded m ∧ (∀ e ∈ events, ∃ op, e = .op op none) ∧
      m.wakeups = l.wakeups ∧ m.viewing.screen = { l.viewing.screen with panel := m.panel } := by
  induction hrun with
  | nil => exact ⟨h, by simp, rfl, rfl⟩
  | concat hrun hstep ih =>
    obtain ⟨hstranded, hops, hwakeups, hscreen⟩ := ih
    obtain ⟨op, rfl, rfl⟩ := hstranded.eq_of_step (hsound.run hrun) hstep
    refine ⟨hstranded, ?_, hwakeups, ?_⟩
    · intro e he
      rcases List.mem_append.1 he with he | he
      · exact hops e he
      · obtain rfl := List.mem_singleton.1 he
        exact ⟨op, rfl⟩
    · unfold operate
      rw [hscreen]
      rfl

/-- The byte of a task was refused while the loop slept and no other byte was waiting. -/
def Refused (l : Loop) (events : List Event) (n : Loop) : Prop :=
  ∃ earlier e later m, events = earlier ++ e :: later ∧ e.write? = some false ∧
    Run l earlier m ∧ Run m (e :: later) n ∧ m.wakeups.bytes = 0 ∧ m.awake = false

/-- A refusal is not undone by what happens later. -/
theorem Refused.concat {l m n : Loop} {events : List Event} {e : Event} (h : Refused l events m)
    (hstep : Step m e n) : Refused l (events ++ [e]) n := by
  obtain ⟨earlier, first, later, k, rfl, hwrite, hbefore, hafter, hbytes, hasleep⟩ := h
  exact ⟨earlier, first, later ++ [e], k, by simp, hwrite, hbefore, hafter.concat hstep, hbytes,
    hasleep⟩

/-- A byte that is refused while the loop sleeps strands the task. -/
theorem stranded_of_write {l m : Loop} {e : Event} (hstep : Step l e m)
    (hwrite : e.write? = some false) (hbytes : l.wakeups.bytes = 0) (hasleep : l.awake = false) :
    Stranded m := by
  cases hstep with
  | attach s w written detached =>
    obtain rfl : written = false := Option.some.inj hwrite
    exact ⟨Nat.succ_pos _, hbytes, rfl⟩
  | quiet s running w awake op absorbed => cases hwrite
  | request s running w awake op written hands =>
    obtain rfl : written = false := Option.some.inj hwrite
    exact ⟨Nat.succ_pos _, hbytes, hasleep⟩
  | wake v w woken => cases hwrite
  | view v v' w e step internal queued => cases hwrite
  | sleep s w done => cases hwrite

/-- A task is stranded by an event only if its byte was refused then, or it was stranded before. -/
theorem Step.stranded {l m : Loop} {e : Event} (hstep : Step l e m) (h : Stranded m) :
    (e.write? = some false ∧ l.wakeups.bytes = 0 ∧ l.awake = false) ∨ Stranded l := by
  obtain ⟨hqueued, hbytes, hasleep⟩ := h
  cases hstep with
  | attach s w written detached =>
    cases written with
    | true => exact absurd hbytes (Nat.succ_ne_zero _)
    | false => exact .inl ⟨rfl, hbytes, rfl⟩
  | quiet s running w awake op absorbed => exact .inr ⟨hqueued, hbytes, hasleep⟩
  | request s running w awake op written hands =>
    cases written with
    | true => exact absurd hbytes (Nat.succ_ne_zero _)
    | false => exact .inl ⟨rfl, hbytes, hasleep⟩
  | wake v w woken => cases hasleep
  | view v v' w e step internal queued => cases hasleep
  | sleep s w done => exact absurd done (Nat.ne_of_gt hqueued)

/-- A task is stranded exactly if its byte was refused while the loop slept and no other byte was
waiting. -/
theorem stranded_iff {l n : Loop} {events : List Event} (hsound : Sound l) (hl : ¬ Stranded l)
    (hrun : Run l events n) : Stranded n ↔ Refused l events n := by
  constructor
  · intro h
    induction hrun with
    | nil => exact absurd h hl
    | concat hrun hstep ih =>
      rcases hstep.stranded h with ⟨hwrite, hbytes, hasleep⟩ | hbefore
      · exact ⟨_, _, [], _, rfl, hwrite, hrun, .single hstep, hbytes, hasleep⟩
      · exact (ih hbefore).concat hstep
  · rintro ⟨earlier, e, later, m, -, hwrite, hbefore, hafter, hbytes, hasleep⟩
    -- The task is stranded right after the refusal, and nothing later changes that.
    obtain ⟨k, hstep, hlater⟩ := hafter.of_cons
    have hm : Sound m := hsound.run hbefore
    exact ((stranded_of_write hstep hwrite hbytes hasleep).run (hm.step hstep) hlater).1

/-! ## §5 What becomes of a queued task -/

/-- After every sequence of events, the queue holds what the refresher takes for outstanding, which
is one task at most, and a request writes a byte exactly if nothing is queued. So a task whose byte
was refused while the loop slept is stranded: the next requests write no byte for it, the loop does
not wake up again and the screen stays as it is. Every other queued task starts, if nothing else
happens. -/
theorem stranded_iff_refused {s : Screen} (hs : s.panel.refresher = none) {events : List Event}
    {l : Loop} (h : Run (ofScreen s) events l) :
    l.wakeups.queued = l.panel.outstanding ∧ l.wakeups.queued ≤ 1 ∧
    (∀ op r, l.panel.refresher = some r → l.panel.Asks op →
      ((∃ written m, Step l (.op op (some written)) m) ↔ l.wakeups.queued = 0)) ∧
    (l.Stranded ↔ Refused (ofScreen s) events l) ∧
    (l.Stranded → ∀ more m, Run l more m → m.Stranded ∧ (∀ e ∈ more, ∃ op, e = .op op none) ∧
      m.viewing.screen = { l.viewing.screen with panel := m.panel }) ∧
    (0 < l.wakeups.queued → ¬ l.Stranded → ∃ more m, Run l more m ∧ .view .start ∈ more ∧
      (∀ e ∈ more, e.isOp = false) ∧ m.wakeups.queued = 0) := by
  have hstart : Sound (ofScreen s) := .ofScreen hs
  have hsound : Sound l := hstart.run h
  have hfirst : ¬ Stranded (ofScreen s) := fun hstranded => Nat.lt_irrefl 0 hstranded.1
  refine ⟨hsound.queued, hsound.queued_le, ?_, stranded_iff hstart hfirst h, ?_, ?_⟩
  · intro op r hr hasks
    have hhands := handsOver_of_asks hr (hsound.inStep r hr) hasks
    rw [hsound.queued, outstanding_of_attached hr]
    constructor
    · rintro ⟨written, m, hstep⟩
      cases hstep with
      | request s running w awake op written hands =>
        exact of_decide_eq_true (hhands.symm.trans hands)
    · intro hzero
      exact ⟨true, _, .request _ _ _ _ op true (hhands.trans (decide_eq_true hzero))⟩
  · intro hstranded more m hrun
    obtain ⟨hm, hops, _, hscreen⟩ := hstranded.run hsound hrun
    exact ⟨hm, hops, hscreen⟩
  · intro hqueued hnot
    obtain ⟨v, w, awake⟩ := l
    cases awake with
    | true => exact run_queued hsound hqueued
    | false =>
      -- The loop sleeps and the task is not stranded, so there is a byte to wake it.
      have hbytes : 0 < w.bytes := by
        apply Nat.pos_of_ne_zero
        intro hzero
        exact hnot ⟨hqueued, hzero, rfl⟩
      have hwoken : Step ⟨v, w, false⟩ .wake ⟨v, { w with bytes := 0 }, true⟩ := .wake v w hbytes
      obtain ⟨more, m, hrun, hstarts, hops, hempty⟩ := run_queued (hsound.step hwoken) hqueued
      refine ⟨[.wake] ++ more, m, (Trace.single hwoken).append hrun, by simp [hstarts], ?_, hempty⟩
      intro e he
      rcases List.mem_append.1 he with he | he
      · obtain rfl := List.mem_singleton.1 he
        rfl
      · exact hops e he

/-- The first refresh of a screen is stranded if its byte is refused, and clearing the log does not
write another one. -/
theorem stranded_iff_refused_first :
    ∃ (p : Panel) (l : Loop), (Panel.start 5 (.memory "") .empty).result = .ok p ∧
      Run (ofScreen (ofPanel p "" true)) [.attach false] l ∧ l.Stranded ∧
      ∀ more m, Run l more m → m.Stranded := by
  let s : Screen := ofPanel .fresh "" true
  have hattached : Run (ofScreen s) [.attach false]
      ⟨⟨s.attach, none⟩, (Wakeups.empty.schedule false).1, false⟩ :=
    .single (.attach s .empty false rfl)
  obtain ⟨_, _, _, hiff, hstays, _⟩ := stranded_iff_refused rfl hattached
  have hstranded := hiff.2 ⟨[], .attach false, [], _, rfl, rfl, .nil _, hattached, rfl, rfl⟩
  refine ⟨.fresh, _, Panel.start_fresh, hattached, hstranded, ?_⟩
  intro more m hrun
  exact (hstays hstranded more m hrun).1

/-- It is not so that the next request writes a byte for a task that is queued without one: the byte
of the first refresh is refused, then the log is cleared, which asks for a refresh and writes
nothing, and from then on the loop does not wake up. -/
theorem not_written_stranded :
    ∃ (p : Panel) (l m : Loop), (Panel.start 5 (.memory "") .empty).result = .ok p ∧
      Run (ofScreen (ofPanel p "" true)) [.attach false] l ∧
      0 < l.wakeups.queued ∧ l.wakeups.bytes = 0 ∧ l.awake = false ∧
      l.panel.Asks .clear ∧ Step l (.op .clear none) m ∧
      (∀ written n, ¬ Step l (.op .clear (some written)) n) ∧
      0 < m.wakeups.queued ∧ m.wakeups.bytes = 0 ∧ ∀ n, ¬ Step m .wake n := by
  let s : Screen := ofPanel .fresh "" true
  have hattached : Run (ofScreen s) [.attach false]
      ⟨⟨s.attach, none⟩, (Wakeups.empty.schedule false).1, false⟩ :=
    .single (.attach s .empty false rfl)
  refine ⟨.fresh, _, _, Panel.start_fresh, hattached, by decide, rfl, rfl, ⟨true, rfl⟩,
    .quiet _ _ _ _ .clear (by decide +kernel), ?_, by decide, rfl, ?_⟩
  · intro written n hstep
    have hhands : handsOver s.attach.panel .clear = false := by decide +kernel
    cases hstep with
    | request _ _ _ _ _ _ hands => exact absurd (hhands.symm.trans hands) Bool.false_ne_true
  · intro n hstep
    cases hstep with
    | wake _ _ woken => exact absurd woken (Nat.lt_irrefl 0)

end Loop

end LogViewer.Screen
