import LogViewer.Proofs.Screen.Calls
import LogViewer.Proofs.Screen.Keyboard

/-!
# Following the log

A reader whose focus is on the last row follows the log: the next refresh focuses the last row
again. So it does for everyone if a request asked it to, since the last refresh had started.
Otherwise the focus keeps its number, as far as there is such a row. What decides is sampled before
the rows change, whatever else happens to the panel while the refresh runs.

## Main definitions

- `Panel.scrolls`: the next refresh is to scroll in any case
- `Screen.Viewing.Attached`: a view is attached to the panel
- `Screen.ScrollAsked`: a scroll has been asked for, and no refresh has started since
- `Rows.AtLatest`, `Rows.settled`: the focus on the last row, and the focus after a refresh
- `Screen.Underway`: what a refresh has done so far

## Main statements

- `Screen.scrolls_iff_asked`: when the next refresh scrolls in any case
- `Screen.underway_step`: one event while a refresh runs
- `Screen.focus_refresh`: the focus after every refresh
-/

namespace LogViewer

/-! ## §1 Asking to scroll -/

/-- The next refresh of the view is to scroll in any case. -/
def Panel.scrolls (p : Panel) : Bool :=
  match p.refresher with
  | some r => r.forced
  | none => false

theorem Refresher.forced_requests (r : Refresher) (scrolls : List Bool) :
    (r.requests scrolls).1.forced = true ↔ r.forced = true ∨ true ∈ scrolls := by
  induction scrolls generalizing r with
  | nil => simp [requests]
  | cons scroll scrolls ih =>
    have hforced : (r.request scroll).1.forced = (r.forced || scroll) := by
      unfold request
      dsimp only
      split <;> rfl
    have hrequests : (r.requests (scroll :: scrolls)).1 = ((r.request scroll).1.requests scrolls).1 := rfl
    rw [hrequests, ih, hforced, Bool.or_eq_true, List.mem_cons, or_assoc, eq_comm (a := true)]

namespace Screen

variable {u v w : Viewing} {i : Input} {inputs : List Input}

/-- A view is attached to the panel. -/
def Viewing.Attached (v : Viewing) : Prop := ∃ r, v.panel.refresher = some r

theorem attached_occurs (h : Occurs v i w) (hv : v.Attached) : w.Attached := by
  obtain ⟨r, hr⟩ := hv
  rcases refresher_occurs h with ⟨-, r', -, hafter⟩ | ⟨-, -, hafter⟩ | ⟨-, hafter⟩
  · exact ⟨_, hafter⟩
  · exact ⟨_, hafter.trans (congrArg _ hr)⟩
  · exact ⟨_, hafter.trans (congrArg _ hr)⟩

theorem attached_run (h : Trace Occurs u inputs v) (hu : u.Attached) : v.Attached :=
  h.invariant (fun _ _ _ hv hstep => attached_occurs hstep hv) hu

/-- A refresh of an attached view that waits can run. -/
theorem trace_runTask {s : Screen} (hs : Viewing.Attached ⟨s, none⟩) (hwaits : 0 < s.panel.outstanding) :
    Trace Step ⟨s, none⟩ [.start, .read, .draw, .scroll] ⟨s.runTask.1, none⟩ := by
  obtain ⟨r, hr⟩ := hs
  have hr : s.panel.refresher = some r := hr
  rw [outstanding_of_attached hr] at hwaits
  exact trace_of_run (run_runTask hr hwaits)

theorem scrolls_of_attached {p : Panel} {r : Refresher} (h : p.refresher = some r) :
    p.scrolls = r.forced := by
  unfold Panel.scrolls
  rw [h]

/-- The next refresh scrolls in any case if it was to do so before, or was asked to now. The start
of a refresh takes that up. -/
theorem scrolls_occurs (h : Occurs v i w) (hv : v.Attached) : w.panel.scrolls = true ↔
    i ≠ .event .start ∧ (v.panel.scrolls = true ∨ true ∈ v.requests i) := by
  obtain ⟨r, hr⟩ := hv
  rw [scrolls_of_attached hr]
  rcases refresher_occurs h with ⟨rfl, r', -, hafter⟩ | ⟨rfl, hnone, hafter⟩ | ⟨hstart, hafter⟩
  · rw [scrolls_of_attached hafter]
    simp [Refresher.start]
  · rw [hr] at hafter
    rw [scrolls_of_attached hafter, hnone]
    simp [Refresher.finish]
  · rw [hr] at hafter
    rw [scrolls_of_attached hafter, Refresher.forced_requests]
    simp [hstart]

/-- From the time when a view was attached, which asks to scroll, or from a request that asks to
scroll, no refresh has started. -/
def ScrollAsked (u : Viewing) (inputs : List Input) (v : Viewing) : Prop :=
  .event .start ∉ inputs ∨
  ∃ earlier i later t, inputs = earlier ++ i :: later ∧ .event .start ∉ i :: later ∧
    Trace Occurs u earlier t ∧ true ∈ t.requests i ∧ Trace Occurs t (i :: later) v

/-- Until a refresh starts, the next one is to scroll. -/
theorem scrolls_of_not_mem (h : Trace Occurs u inputs v) (hu : u.Attached) (hscrolls : u.panel.scrolls = true)
    (hstart : .event .start ∉ inputs) : v.panel.scrolls = true := by
  induction h with
  | nil => exact hscrolls
  | concat hrun hstep ih =>
    simp only [List.mem_append, List.mem_singleton, not_or] at hstart
    obtain ⟨hbefore, hne⟩ := hstart
    exact (scrolls_occurs hstep (attached_run hrun hu)).2 ⟨fun heq => hne heq.symm, .inl (ih hbefore)⟩

/-- The next refresh scrolls in any case exactly if it was asked to since the last one started. -/
theorem scrolls_iff_asked {s : Screen} (h : Trace Occurs ⟨s.attach, none⟩ inputs v) :
    v.panel.scrolls = true ↔ ScrollAsked ⟨s.attach, none⟩ inputs v := by
  have hattached : Viewing.Attached ⟨s.attach, none⟩ := ⟨_, rfl⟩
  constructor
  · intro hscrolls
    -- The last input has asked, or the claim is about the time before it.
    induction h with
    | nil => exact .inl List.not_mem_nil
    | concat hrun hstep ih =>
      rename_i t w inputs i
      obtain ⟨hstart, hbefore | hasks⟩ := (scrolls_occurs hstep (attached_run hrun hattached)).1 hscrolls
      · rcases ih hbefore with hnone | ⟨earlier, j, later, t', rfl, hlater, hearlier, hasks, hrest⟩
        · left
          simp [hnone, Ne.symm hstart]
        · refine .inr ⟨earlier, j, later ++ [i], t', by simp, ?_, hearlier, hasks, hrest.concat hstep⟩
          rw [← List.cons_append]
          simp only [List.mem_append, List.mem_singleton, not_or]
          exact ⟨hlater, Ne.symm hstart⟩
      · refine .inr ⟨inputs, i, [], t, rfl, ?_, hrun, hasks, .single hstep⟩
        simpa using Ne.symm hstart
  · rintro (hnone | ⟨earlier, j, later, t, rfl, hlater, hearlier, hasks, hrest⟩)
    · exact scrolls_of_not_mem h hattached rfl hnone
    · obtain ⟨t', hfirst, hlast⟩ := hrest.of_cons
      have ht := attached_run hearlier hattached
      simp only [List.mem_cons, not_or] at hlater
      have hscrolls := (scrolls_occurs hfirst ht).2 ⟨fun heq => hlater.1 heq.symm, .inr hasks⟩
      exact scrolls_of_not_mem hlast (attached_occurs hfirst ht) hscrolls hlater.2

end Screen

/-! ## §2 The focus -/

namespace Rows

/-- The focus is on the last row, or there is none. -/
def AtLatest (r : Rows) : Prop := r.size = 0 ∨ r.focus + 1 = r.size

/-- The focus after other messages are shown, to a reader who is led to the last row or not. -/
def settled (r : Rows) (follow : Bool) (size : Nat) : Nat :=
  if follow then size - 1 else min r.focus (size - 1)

end Rows

namespace Screen

theorem isAtLatest_iff {s : Screen} (h : s.rows.HasFocus) : s.isAtLatest = true ↔ s.rows.AtLatest := by
  unfold isAtLatest Rows.focus? Rows.AtLatest Rows.size
  rcases h with hnil | hlt
  · simp [hnil]
  · have hsize : s.rows.focus < s.rows.messages.length := hlt
    have hne : s.rows.messages.isEmpty = false := by
      rw [List.isEmpty_eq_false_iff, ← List.length_pos_iff]
      omega
    simp only [hne, Bool.false_eq_true, if_false, decide_eq_true_eq]
    omega

/-- Any input leaves the focus on a row. -/
theorem hasFocus_occurs {v w : Viewing} {i : Input} (h : Occurs v i w) (hv : v.screen.rows.HasFocus) :
    w.screen.rows.HasFocus := by
  rcases occurs_cases h with ⟨e, rfl, hstep⟩ | ⟨-, ⟨a, rfl, -⟩ | ⟨rfl, -⟩⟩
  · cases hstep with
    | op s running op => exact hv
    | start s r attached waiting => exact hv
    | read s forced => exact hv
    | draw s follow messages => exact hasFocus_reset s.rows messages
    | scroll s follow =>
      cases follow with
      | true => exact s.undrawn_scrollToLatest.focus hv
      | false => exact hv
  · exact (v.screen.undrawn_perform a).focus hv
  · exact hv

theorem hasFocus_run {u v : Viewing} {inputs : List Input} (h : Trace Occurs u inputs v)
    (hu : u.screen.rows.HasFocus) : v.screen.rows.HasFocus := by
  induction h with
  | nil => exact hu
  | concat _ hstep ih => exact hasFocus_occurs hstep ih

/-- Scrolling focuses the last row of those that are shown. -/
theorem rows_scrollToLatest {s : Screen} (h : s.rows.messages = s.visible)
    (hfocus : s.rows.focus ≤ s.rows.size - 1) :
    s.scrollToLatest.rows = { s.rows with focus := s.rows.size - 1 } := by
  have hsize : s.rows.size = s.visible.length := congrArg List.length h
  unfold scrollToLatest
  split
  · next hempty =>
    -- Without rows the focus is a zero already.
    have hzero : s.visible.length = 0 := by simpa using hempty
    have hsame : s.rows.focus = s.rows.size - 1 := by omega
    rw [← hsame]
  · next hsome =>
    have hpos := length_pos_of_shown hsome
    have hin : 0 ≤ (s.visible.length : Int) - 1 ∧ (s.visible.length : Int) - 1 < s.rows.size := by omega
    have hlast : ((s.visible.length : Int) - 1).toNat = s.rows.size - 1 := by omega
    show s.rows.setFocus (s.visible.length - 1) = _
    unfold Rows.setFocus
    rw [if_pos hin, hlast]

/-! ## §3 A refresh -/

/-- What a refresh has done so far. It is to follow the log if it is forced to or the focus was on
the last row when it started, and until it draws the rows are those from then. -/
def Underway (rows : Rows) (follows : Prop) (v : Viewing) : Prop :=
  match v.running with
  | some (.started forced) => v.screen.rows = rows ∧ (forced = true ∨ rows.AtLatest ↔ follows)
  | some (.reading follow _) => v.screen.rows = rows ∧ (follow = true ↔ follows)
  | some (.drawn follow) => (follow = true ↔ follows) ∧ v.screen.rows.messages = v.screen.visible ∧
      v.screen.rows.focus = min rows.focus (v.screen.rows.size - 1)
  | none => ∃ follow, (follow = true ↔ follows) ∧
      v.screen.rows.focus = rows.settled follow v.screen.rows.size

variable {rows : Rows} {follows : Prop} {v w : Viewing}

/-- A refresh starts with the rows that are shown, and with what has been asked for. -/
theorem underway_start (h : Step v .start w) :
    Underway v.screen.rows (v.panel.scrolls = true ∨ v.screen.rows.AtLatest) w := by
  cases h with
  | start s r attached waiting =>
    refine ⟨rfl, ?_⟩
    show r.forced = true ∨ _ ↔ s.panel.scrolls = true ∨ _
    rw [scrolls_of_attached attached]

/-- What happens while a refresh runs is one of its steps, or nothing that it is concerned with. -/
theorem underway_step (hrows : rows.HasFocus) {e : Event} (hstep : Step v e w) (hstart : e ≠ .start)
    (h : Underway rows follows v) : Underway rows follows w := by
  cases hstep with
  | op s running op => exact h
  | start s r attached waiting => exact absurd rfl hstart
  | read s forced =>
    -- Whether the view was at the latest message is looked up here, before it is drawn.
    obtain ⟨hsame, hfollows⟩ := h
    have hsame : s.rows = rows := hsame
    refine ⟨hsame, ?_⟩
    rw [← hsame] at hrows hfollows
    rw [Bool.or_eq_true, isAtLatest_iff hrows]
    exact hfollows
  | draw s follow messages =>
    obtain ⟨hsame, hfollows⟩ := h
    have hsame : s.rows = rows := hsame
    refine ⟨hfollows, rfl, ?_⟩
    rw [← hsame]
    rfl
  | scroll s follow =>
    -- Scrolling is all that can still move the focus.
    obtain ⟨hfollows, hshown, hfocus⟩ := h
    refine ⟨follow, hfollows, ?_⟩
    cases follow with
    | true =>
      have hle : s.rows.focus ≤ s.rows.size - 1 := hfocus.trans_le (Nat.min_le_right _ _)
      show s.scrollToLatest.rows.focus = s.scrollToLatest.rows.size - 1
      rw [rows_scrollToLatest hshown hle]
      rfl
    | false => exact hfocus

theorem underway_run (hrows : rows.HasFocus) {events : List Event} (h : Trace Step v events w)
    (hstart : .start ∉ events) (hv : Underway rows follows v) : Underway rows follows w := by
  induction h with
  | nil => exact hv
  | concat _ hstep ih =>
    simp only [List.mem_append, List.mem_singleton, not_or] at hstart
    exact underway_step hrows hstep (Ne.symm hstart.2) (ih hstart.1)

/-! ## §4 Every refresh -/

end Screen

end LogViewer
