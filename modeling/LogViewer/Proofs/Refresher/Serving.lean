import LogViewer.Proofs.Refresher.Coalescing
import Mathlib.Data.List.DropRight

/-!
# Which task serves a request

A request is served by the first task that starts after it. So the history of a refresher is cut at
the starts of tasks: the requests of one piece belong to the task that starts the next one, also
those that are made while an earlier task draws the view. A task that starts takes the wish to
scroll with it, and whether it scrolls depends on the requests of its own piece and on the view
alone.

## Main definitions

- `sinceStart`: what happened since the last task started
- `performance`: the calls that a task makes from its start to its end

## Main statements

- `Run.awaits`: what is stored between events is what was asked for since the last start
- `Run.performed`: the calls of a running task are a part of its performance
- `served_once`: every request is served by the next task, once, and scrolls only there
-/

namespace LogViewer.Refresher

/-! ## §1 Histories cut at the starts -/

/-- Whether an event is a request. -/
def Event.isRequest : Event → Bool
  | request _ _ => true
  | _ => false

/-- Whether an event is a request to scroll to the latest message. -/
def Event.asksToScroll : Event → Bool
  | request scroll _ => scroll
  | _ => false

/-- The call of the view that an event brings to its end. -/
def Event.call? : Event → Option ViewCall
  | answer _ => some .isAtLatest
  | drawn => some .refresh
  | scrolled => some .scroll
  | _ => none

/-- Whether an event brings a call of the view to its end. -/
def Event.isCall (e : Event) : Bool := e.call?.isSome

/-- What happened since the last task started. -/
def sinceStart (events : List Event) : List Event :=
  events.rtakeWhile (· ≠ .start)

theorem sinceStart_concat (events : List Event) (e : Event) :
    sinceStart (events ++ [e]) = if e = .start then [] else sinceStart events ++ [e] := by
  unfold sinceStart
  by_cases he : e = .start
  · rw [if_pos he, List.rtakeWhile_concat_neg _ _ _ (by simpa using he)]
  · rw [if_neg he, List.rtakeWhile_concat_pos _ _ _ (by simpa using he)]

/-- A piece in which no task starts only adds to what happened since the last start. -/
theorem sinceStart_append (events : List Event) {more : List Event} (hmore : .start ∉ more) :
    sinceStart (events ++ more) = sinceStart events ++ more := by
  induction more using List.reverseRecOn with
  | nil => simp
  | append_singleton more e ih =>
    simp only [List.mem_append, List.mem_singleton, not_or] at hmore
    obtain ⟨hmore, he⟩ := hmore
    rw [← List.append_assoc, sinceStart_concat, if_neg (Ne.symm he), ih hmore, List.append_assoc]

/-- An event that starts no task happened since the last start until the next one. -/
theorem mem_sinceStart (before : List Event) {later : List Event} {e : Event} (he : e ≠ .start)
    (hlater : .start ∉ later) : e ∈ sinceStart (before ++ e :: later) := by
  rw [List.append_cons, sinceStart_append _ hlater, sinceStart_concat, if_neg he]
  simp

/-! ## §2 Runs in pieces -/

/-- A run without events stays where it is. -/
theorem Run.eq_of_nil {a c : Activity} (h : Run a [] c) : c = a := by
  generalize hnil : ([] : List Event) = events at h
  cases h with
  | nil => rfl
  | concat => simp at hnil

/-- A run ends with the step of its last event. -/
theorem Run.of_concat {a c : Activity} {events : List Event} {e : Event}
    (h : Run a (events ++ [e]) c) : ∃ b, Run a events b ∧ Step b e c := by
  generalize hall : events ++ [e] = all at h
  cases h with
  | nil => simp at hall
  | concat hrun hstep =>
    obtain ⟨rfl, he⟩ := List.append_inj' hall rfl
    cases he
    exact ⟨_, hrun, hstep⟩

/-- A run of two pieces passes through a state between them. -/
theorem Run.of_append {a c : Activity} {events more : List Event} (h : Run a (events ++ more) c) :
    ∃ b, Run a events b ∧ Run b more c := by
  induction more using List.reverseRecOn generalizing c with
  | nil =>
    rw [List.append_nil] at h
    exact ⟨c, h, .nil c⟩
  | append_singleton more e ih =>
    rw [← List.append_assoc] at h
    obtain ⟨d, hrun, hstep⟩ := h.of_concat
    obtain ⟨b, hbefore, hafter⟩ := ih hrun
    exact ⟨b, hbefore, hafter.concat hstep⟩

/-- A task starts only where none is running. -/
theorem Run.idle_of_start {a c : Activity} {events : List Event} (h : Run a (.start :: events) c) :
    a.running = none := by
  have hpieces : Run a (([] ++ [.start]) ++ events) c := h
  obtain ⟨b, hfirst, _⟩ := hpieces.of_append
  obtain ⟨a', hnil, hstep⟩ := hfirst.of_concat
  rw [hnil.eq_of_nil] at hstep
  cases hstep with
  | start r waiting => rfl

/-! ## §3 What waits for the next task -/

/-- What is stored between events is what was asked for since the last start: whether a task waits,
whether it is to scroll, and how many tasks were handed over. -/
structure Awaits (r : Refresher) (batch : List Event) : Prop where
  pending : r.pending = batch.any Event.isRequest
  forced : r.forced = batch.any Event.asksToScroll
  handedOver : r.outstanding = batch.countP Event.handsOver

theorem Awaits.idle : Awaits Refresher.idle [] := ⟨rfl, rfl, rfl⟩

/-- A request joins what waits. -/
theorem Awaits.request {r : Refresher} {batch : List Event} (h : Awaits r batch) (scroll : Bool) :
    Awaits (r.request scroll).1 (batch ++ [.request scroll (r.request scroll).2]) where
  pending := by simp [request_pending, Event.isRequest]
  forced := by
    have hforced : (r.request scroll).1.forced = (r.forced || scroll) := by
      unfold Refresher.request
      cases r.pending <;> rfl
    rw [hforced, h.forced, List.any_append]
    simp [Event.asksToScroll]
  handedOver := by
    rw [request_outstanding, h.handedOver, List.countP_append, List.countP_singleton]
    rfl

/-- A task that starts takes all that waits with it. -/
theorem Awaits.start {r : Refresher} (hin : InStep r) (waiting : 0 < r.outstanding) :
    Awaits r.start.1 [] where
  pending := rfl
  forced := rfl
  handedOver := by
    -- At most one task waits, so none does once it started.
    have hone : r.outstanding = if r.pending then 1 else 0 := hin
    show r.outstanding - 1 = 0
    split at hone <;> omega

/-- What a task does keeps what waits for the next one. -/
theorem Awaits.congr {r r' : Refresher} {batch : List Event} {e : Event} (h : Awaits r batch)
    (hpending : r'.pending = r.pending) (hforced : r'.forced = r.forced)
    (houtstanding : r'.outstanding = r.outstanding) (he : e.isRequest = false) :
    Awaits r' (batch ++ [e]) := by
  have hscroll : e.asksToScroll = false := by
    cases e <;> simp_all [Event.isRequest, Event.asksToScroll]
  have hgives : e.handsOver = false := by cases e <;> simp_all [Event.isRequest, Event.handsOver]
  refine ⟨?_, ?_, ?_⟩
  · simp [hpending, h.pending, he]
  · simp [hforced, h.forced, hscroll]
  · simp [houtstanding, h.handedOver, hgives]

/-- Every event keeps in store what was asked for since the last start. -/
theorem Awaits.step {a b : Activity} {e : Event} {batch : List Event}
    (h : Awaits a.refresher batch) (hin : InStep a.refresher) (hstep : Step a e b) :
    Awaits b.refresher (if e = .start then [] else batch ++ [e]) := by
  cases hstep with
  | request r running scroll => exact h.request scroll
  | start r waiting => exact .start hin waiting
  | answer r atLatest => exact h.congr rfl rfl rfl rfl
  | drawn r follow => exact h.congr rfl rfl rfl rfl
  | scrolled r => exact h.congr rfl rfl rfl rfl
  | fail r stage => exact h.congr rfl rfl rfl rfl

/-- After every history, what is stored is what was asked for since the last start. -/
theorem Run.awaits {events : List Event} {a : Activity} (h : Run .idle events a) :
    Awaits a.refresher (sinceStart events) := by
  induction h with
  | nil => exact .idle
  | concat hrun hstep ih =>
    rw [sinceStart_concat]
    exact ih.step (hrun.inStep .idle) hstep

/-- A request that no task has taken yet leaves one task waiting. -/
theorem Awaits.outstanding_of_mem {r : Refresher} {batch : List Event} (h : Awaits r batch)
    (hin : InStep r) {scroll granted : Bool} (hmem : .request scroll granted ∈ batch) :
    r.outstanding = 1 := by
  have hpending : r.pending = true := by
    rw [h.pending, List.any_eq_true]
    exact ⟨_, hmem, rfl⟩
  have hone : r.outstanding = if r.pending then 1 else 0 := hin
  rw [hone, hpending]
  rfl

/-! ## §4 What a task does -/

/-- The calls that a task makes from its start to its end: it asks the view where it is unless it is
forced to scroll, draws it, and scrolls it if it is forced to or the view was at the latest
message. -/
def performance (forced atLatest : Bool) : List Event :=
  (if forced then [] else [.answer atLatest]) ++
    .drawn :: (if forced || atLatest then [.scrolled] else [])

/-- The calls that a task made, whether one failed, and the stage that it is in. -/
inductive Performed (forced : Bool) : List Event → (failed : Bool) → Option Stage → Prop
  | asking (h : forced = false) : Performed forced [] false (some .asking)
  | drawing (atLatest : Bool) :
      Performed forced (if forced then [] else [.answer atLatest]) false
        (some (.drawing (forced || atLatest)))
  | scrolling (atLatest : Bool) (h : (forced || atLatest) = true) :
      Performed forced ((if forced then [] else [.answer atLatest]) ++ [.drawn]) false
        (some .scrolling)
  | ended (atLatest : Bool) : Performed forced (performance forced atLatest) false none
  | failed (atLatest : Bool) {calls : List Event} (h : calls <+: performance forced atLatest) :
      Performed forced calls true none

/-- A task that starts has made no call. -/
theorem Performed.start (r : Refresher) :
    Performed r.forced [] false (some (if r.start.2 then .drawing true else .asking)) := by
  have hstage : r.start.2 = r.forced := rfl
  rw [hstage]
  cases hforced : r.forced with
  | true => exact .drawing true
  | false => exact .asking rfl

/-- In every stage the calls so far begin a performance. -/
theorem Performed.isPrefix {forced failed : Bool} {calls : List Event} {running : Option Stage}
    (h : Performed forced calls failed running) :
    ∃ atLatest, calls <+: performance forced atLatest := by
  cases h with
  | asking _ => exact ⟨true, List.nil_prefix⟩
  | drawing atLatest => exact ⟨atLatest, List.prefix_append _ _⟩
  | scrolling atLatest hscroll =>
    refine ⟨atLatest, ?_⟩
    unfold performance
    rw [if_pos hscroll]
    exact ⟨[.scrolled], by simp⟩
  | ended atLatest => exact ⟨atLatest, List.prefix_refl _⟩
  | failed atLatest hprefix => exact ⟨atLatest, hprefix⟩

/-- A task that ended and in which no call failed gave its whole performance. -/
theorem Performed.eq_performance {forced : Bool} {calls : List Event}
    (h : Performed forced calls false none) : ∃ atLatest, calls = performance forced atLatest := by
  cases h with
  | ended atLatest => exact ⟨atLatest, rfl⟩

/-- Every event but the start of a task goes on with the performance of the running one. -/
theorem Performed.step {a b : Activity} {e : Event} {forced failed : Bool} {calls : List Event}
    (h : Performed forced calls failed a.running) (hstep : Step a e b) (he : e ≠ .start) :
    Performed forced (calls ++ if e.isCall then [e] else []) (failed || decide (e = .fail))
      b.running := by
  cases hstep with
  | request r running scroll => simpa [Event.isCall, Event.call?] using h
  | start r waiting => exact absurd rfl he
  | answer r atLatest =>
    cases h with
    | asking hforced =>
      subst hforced
      exact .drawing atLatest
  | drawn r follow =>
    generalize hstage : some (Stage.drawing follow) = stage at h
    cases h with
    | drawing atLatest =>
      cases hstage
      -- The task is over here unless the view is to scroll.
      cases hfollow : forced || atLatest with
      | true => exact .scrolling atLatest hfollow
      | false =>
        have hended : Performed forced (performance forced atLatest) false none := .ended atLatest
        unfold performance at hended
        rw [hfollow] at hended
        exact hended
    | _ => cases hstage
  | scrolled r =>
    cases h with
    | scrolling atLatest hscroll =>
      have hended : Performed forced (performance forced atLatest) false none := .ended atLatest
      unfold performance at hended
      rw [hscroll] at hended
      simpa [Event.isCall, Event.call?] using hended
  | fail r stage =>
    obtain ⟨atLatest, hprefix⟩ := h.isPrefix
    simpa [Event.isCall, Event.call?] using Performed.failed atLatest hprefix

/-- The calls of a task are a part of its performance, as long as no other task starts. -/
theorem Run.performed {a b : Activity} {events : List Event} (h : Run a events b)
    (hstart : .start ∉ events) {forced : Bool} (hbegin : Performed forced [] false a.running) :
    Performed forced (events.filter Event.isCall) (decide (.fail ∈ events)) b.running := by
  induction h with
  | nil => exact hbegin
  | @concat _ _ events e hrun hstep ih =>
    simp only [List.mem_append, List.mem_singleton, not_or] at hstart
    obtain ⟨hstart, he⟩ := hstart
    have hfailed :
        decide (.fail ∈ events ++ [e]) = (decide (.fail ∈ events) || decide (e = .fail)) := by
      rw [← Bool.decide_or]
      exact decide_eq_decide.2 (by rw [List.mem_append, List.mem_singleton, @eq_comm _ e])
    rw [List.filter_append, List.filter_cons, List.filter_nil, hfailed]
    exact (ih hstart).step hstep (Ne.symm he)

/-! ## §5 Requests and the tasks that serve them -/

/-- What a task does from its start on, given what happened before. -/
theorem Run.performed_of_start {before own : List Event} {b : Activity}
    (h : Run .idle (before ++ .start :: own) b) (hown : .start ∉ own) :
    (sinceStart before).countP Event.handsOver = 1 ∧
    Performed ((sinceStart before).any Event.asksToScroll) (own.filter Event.isCall)
      (decide (.fail ∈ own)) b.running := by
  rw [List.append_cons] at h
  obtain ⟨started, hrun, htask⟩ := h.of_append
  obtain ⟨idle, hbefore, hstep⟩ := hrun.of_concat
  have hawaits := hbefore.awaits
  have hin : InStep idle.refresher := hbefore.inStep .idle
  cases hstep with
  | start r waiting =>
    -- The task that starts is the one that waits, and takes the wish to scroll with it.
    refine ⟨?_, ?_⟩
    · have hone : r.outstanding = if r.pending then 1 else 0 := hin
      rw [← hawaits.handedOver]
      show r.outstanding = 1
      split at hone <;> omega
    · rw [← hawaits.forced]
      exact htask.performed hown (.start r)

/-- A task that ended and in which no call failed gave its whole performance. -/
theorem Run.eq_performance {before own rest : List Event} {a : Activity}
    (h : Run .idle (before ++ .start :: (own ++ rest)) a) (hown : .start ∉ own)
    (hrest : ∀ e ∈ rest.head?, e = .start) (hended : rest = [] → a.running = none)
    (hfail : .fail ∉ own) : ∃ atLatest, own.filter Event.isCall =
      performance ((sinceStart before).any Event.asksToScroll) atLatest := by
  rw [← List.cons_append, ← List.append_assoc] at h
  obtain ⟨b, htask, hafter⟩ := h.of_append
  have hperformed := (htask.performed_of_start hown).2
  have hnone : b.running = none := by
    cases rest with
    | nil =>
      rw [← hafter.eq_of_nil]
      exact hended rfl
    | cons e rest =>
      rw [hrest e rfl] at hafter
      exact hafter.idle_of_start
  rw [hnone, decide_eq_false hfail] at hperformed
  exact hperformed.eq_performance

/-- Every request is served by the first task that starts after it, and until then one task waits.
The task that starts is the only one that was handed over since the start before it. The calls it
makes are a part of its performance, and all of it once it ended without a failing call: it draws
the view once, and afterwards scrolls it exactly if one of the requests since the start before it
asked to or the view was at the latest message before it was drawn. So a wish to scroll is carried
out by the first task that starts after it, also where another task was drawing the view, and by no
later one. -/
theorem served_once {events : List Event} {a : Activity} (h : Run .idle events a) :
    (∀ before scroll granted later, events = before ++ .request scroll granted :: later →
      .start ∉ later → a.refresher.outstanding = 1) ∧
    (∀ before own rest, events = before ++ .start :: (own ++ rest) → .start ∉ own →
      (sinceStart before).countP Event.handsOver = 1 ∧
      (∃ atLatest, own.filter Event.isCall <+:
        performance ((sinceStart before).any Event.asksToScroll) atLatest) ∧
      ((∀ e ∈ rest.head?, e = .start) → (rest = [] → a.running = none) → .fail ∉ own →
        ∃ atLatest, own.filter Event.isCall =
          performance ((sinceStart before).any Event.asksToScroll) atLatest)) ∧
    (∀ before granted later own rest,
      events = before ++ .request true granted :: (later ++ .start :: (own ++ rest)) →
      .start ∉ later → .start ∉ own → (∀ e ∈ rest.head?, e = .start) →
      (rest = [] → a.running = none) → .fail ∉ own →
      own.filter Event.isCall = [.drawn, .scrolled]) := by
  refine ⟨?_, ?_, ?_⟩
  · intro before scroll granted later hevents hlater
    subst hevents
    exact h.awaits.outstanding_of_mem (h.inStep .idle) (mem_sinceStart before (by simp) hlater)
  · intro before own rest hevents hown
    subst hevents
    refine ⟨?_, ?_, fun hrest hended hfail => h.eq_performance hown hrest hended hfail⟩
    all_goals
      rw [← List.cons_append, ← List.append_assoc] at h
      -- The task is what runs from its start to the next one.
      obtain ⟨b, htask, _⟩ := h.of_append
    · exact (htask.performed_of_start hown).1
    · exact (htask.performed_of_start hown).2.isPrefix
  · intro before granted later own rest hevents hlater hown hrest hended hfail
    subst hevents
    rw [← List.cons_append, ← List.append_assoc] at h
    obtain ⟨atLatest, hcalls⟩ := h.eq_performance hown hrest hended hfail
    -- The wish is one of the requests since the start before.
    have hscroll : (sinceStart (before ++ .request true granted :: later)).any
        Event.asksToScroll = true :=
      List.any_eq_true.2 ⟨_, mem_sinceStart before (by simp) hlater, rfl⟩
    rw [hcalls, hscroll]
    rfl

/-- A wish to scroll that comes up while a task draws the view is carried out by the next task, and
the one after it leaves the view where it is. -/
theorem served_once_whileDrawing :
    ∃ (before own last : List Event) (a : Activity),
      before = [.request false true, .start, .answer false, .request true true, .drawn] ∧
      own = [.drawn, .scrolled, .request false true] ∧ last = [.answer false, .drawn] ∧
      Run .idle (before ++ .start :: (own ++ .start :: last)) a ∧ a.running = none ∧
      (sinceStart before).countP Event.handsOver = 1 ∧
      own.filter Event.isCall = [.drawn, .scrolled] ∧
      (∃ atLatest, last.filter Event.isCall = performance false atLatest) := by
  have h₁ := (Step.request Refresher.idle none false).run
  have h₂ := h₁.concat (.start _ (by decide))
  have h₃ := h₂.concat (.answer _ false)
  -- The view is being drawn when the wish to scroll comes up.
  have h₄ := h₃.concat (.request _ _ true)
  have h₅ := h₄.concat (.drawn _ false)
  have h₆ := h₅.concat (.start _ (by decide))
  have h₇ := h₆.concat (.drawn _ true)
  have h₈ := h₇.concat (.scrolled _)
  have h₉ := h₈.concat (.request _ _ false)
  have h₁₀ := h₉.concat (.start _ (by decide))
  have h₁₁ := h₁₀.concat (.answer _ false)
  have h₁₂ := h₁₁.concat (.drawn _ false)
  obtain ⟨_, htask, hscroll⟩ := served_once h₁₂
  refine ⟨_, _, _, _, rfl, rfl, rfl, h₁₂, rfl, ?_, ?_, ?_⟩
  · exact (htask _ [.drawn, .scrolled, .request false true] [.start, .answer false, .drawn] rfl
      (by decide)).1
  · exact hscroll [.request false true, .start, .answer false] true [.drawn] _
      [.start, .answer false, .drawn] rfl (by decide) (by decide) (by decide) (by decide)
      (by decide)
  · exact (htask [.request false true, .start, .answer false, .request true true, .drawn, .start,
      .drawn, .scrolled, .request false true] _ [] rfl (by decide)).2.2 (by decide) (fun _ => rfl)
      (by decide)

end LogViewer.Refresher
