import LogViewer.Proofs.Screen.Following

/-!
# The screen comes to rest

Whatever a user does, whether it succeeds or not, either asks for a refresh or leaves the visible
messages alone. So a refresh waits, or the screen is about to show what is visible, or it does. The
exception is a removal or a replacement of the selected rule that is not saved; the next refresh
makes up for it.

## Main definitions

- `Refresher.Coherent`: a refresher is in step, and scrolls only if it waits
- `Screen.Viewing.Current`: a refresh waits or what is shown will be right
- `Screen.UnsavedSince`: what was not saved since a refresh has read the panel
- `Screen.Event.Unattended`: what happens while nobody does anything

## Main statements

- `Screen.current_occurs`: one input
- `Screen.current_run`, `Screen.current_of_unattended`: every run
- `Screen.fresh_of_atRest`, `Screen.scrolls_of_atRest`: the screen at rest
-/

namespace LogViewer

/-! ## §1 The refresher -/

namespace Refresher

/-- A refresh is pending exactly while one waits, and none is to scroll while none is pending. -/
structure Coherent (r : Refresher) : Prop where
  inStep : r.InStep
  forced : r.forced = true → r.pending = true

variable {r : Refresher}

theorem Coherent.request (h : r.Coherent) (scroll : Bool) : (r.request scroll).1.Coherent :=
  ⟨h.inStep.request scroll, fun _ => r.request_pending scroll⟩

theorem Coherent.requests (h : r.Coherent) (scrolls : List Bool) : (r.requests scrolls).1.Coherent := by
  induction scrolls generalizing r with
  | nil => exact h
  | cons scroll scrolls ih => exact ih (h.request scroll)

theorem Coherent.start (h : r.Coherent) : r.start.1.Coherent := ⟨h.inStep.start, fun hforced => nomatch hforced⟩

theorem Coherent.finish (h : r.Coherent) : r.finish.Coherent := ⟨h.inStep.finish, h.forced⟩

/-- A refresh waits exactly if it is pending. -/
theorem Coherent.waits_iff (h : r.Coherent) : 0 < r.outstanding ↔ r.pending = true := by
  have hwaiting : r.outstanding = if r.pending then 1 else 0 := h.inStep
  rw [hwaiting]
  cases r.pending <;> simp

/-- A refresh is pending after some requests if there is one among them or if it was so before. -/
theorem pending_requests (r : Refresher) (scrolls : List Bool) :
    (r.requests scrolls).1.pending = (r.pending || !scrolls.isEmpty) := by
  induction scrolls generalizing r with
  | nil => simp [requests]
  | cons scroll scrolls ih =>
    have hrequests : (r.requests (scroll :: scrolls)).1 = ((r.request scroll).1.requests scrolls).1 := rfl
    rw [hrequests, ih, request_pending]
    simp

end Refresher

namespace Screen

variable {u v w : Viewing} {i : Input} {inputs : List Input}

/-- A view is attached, and its refresher is coherent. -/
def Viewing.Coherent (v : Viewing) : Prop := ∃ r, v.panel.refresher = some r ∧ r.Coherent

theorem coherent_occurs (h : Occurs v i w) (hv : v.Coherent) : w.Coherent := by
  obtain ⟨r, hr, hin⟩ := hv
  rcases refresher_occurs h with ⟨-, r', hr', hafter⟩ | ⟨-, -, hafter⟩ | ⟨-, hafter⟩
  · obtain rfl : r' = r := Option.some.inj (hr'.symm.trans hr)
    exact ⟨_, hafter, hin.start⟩
  · exact ⟨_, hafter.trans (congrArg _ hr), hin.finish⟩
  · exact ⟨_, hafter.trans (congrArg _ hr), hin.requests _⟩

/-- A screen that is attached asks for its first refresh. -/
theorem coherent_attach (s : Screen) : Viewing.Coherent ⟨s.attach, none⟩ :=
  ⟨_, rfl, Refresher.Coherent.request ⟨.idle, fun hforced => nomatch hforced⟩ true⟩

/-- At rest no refresh is to scroll. -/
theorem scrolls_of_atRest (h : v.Coherent) (hrest : v.AtRest) : v.panel.scrolls = false := by
  obtain ⟨r, hr, hin⟩ := h
  obtain ⟨-, hzero⟩ := hrest
  rw [outstanding_of_attached hr] at hzero
  rw [scrolls_of_attached hr, Bool.eq_false_iff]
  intro hforced
  exact Nat.ne_of_gt (hin.waits_iff.2 (hin.forced hforced)) hzero

/-! ## §2 What is shown -/

/-- A running refresh has yet to read the panel, or it has read what is visible, or the screen shows
it. -/
def Viewing.Showing (v : Viewing) : Prop :=
  match v.running with
  | some (.started _) => True
  | some (.reading _ messages) => messages = v.panel.visible
  | _ => v.Fresh

/-- A refresh waits or what is shown will be right. -/
def Viewing.Current (v : Viewing) : Prop := 0 < v.panel.outstanding ∨ v.Showing

theorem fresh_of_current (h : v.Current) (hrest : v.AtRest) : v.Fresh := by
  obtain ⟨hnone, hzero⟩ := hrest
  rcases h with hwaits | hshowing
  · exact absurd hzero (Nat.ne_of_gt hwaits)
  · unfold Viewing.Showing at hshowing
    rw [hnone] at hshowing
    exact hshowing

theorem current_of_fresh (h : v.Fresh) (hrest : v.AtRest) : v.Current := by
  right
  unfold Viewing.Showing
  rw [hrest.1]
  exact h

/-- What is right stays right while neither the visible messages change nor what is shown. -/
theorem showing_congr {s s' : Screen} {running : Option Task} (hpanel : s'.panel.visible = s.panel.visible)
    (hshown : s'.visible = s.visible) (hrows : s'.rows.messages = s.rows.messages)
    (h : Viewing.Showing ⟨s, running⟩) : Viewing.Showing ⟨s', running⟩ := by
  have hfresh : Viewing.Fresh ⟨s, running⟩ → Viewing.Fresh ⟨s', running⟩ := by
    rintro ⟨hsame, hsame'⟩
    exact ⟨(hshown.trans hsame).trans hpanel.symm, (hrows.trans hsame').trans hpanel.symm⟩
  match running, h with
  | some (.started _), _ => exact trivial
  | some (.reading _ _), hread => exact Eq.trans hread hpanel.symm
  | some (.drawn _), h => exact hfresh h
  | none, h => exact hfresh h

/-- An input that leaves the visible messages alone leaves right what is shown, and a refresh that
reads the panel makes it right. -/
theorem showing_occurs (h : Occurs v i w) (hvisible : w.panel.visible = v.panel.visible)
    (hv : i = .event .read ∨ v.Showing) : w.Showing := by
  rcases occurs_cases h with ⟨e, rfl, hstep⟩ | ⟨hno, ⟨a, rfl, -⟩ | ⟨rfl, -⟩⟩
  · cases hstep with
    | op s running op => exact showing_congr hvisible rfl rfl (hv.resolve_left (by simp))
    | start s r attached waiting => exact trivial
    | read s forced => exact rfl
    | draw s follow messages =>
      have hread : messages = s.panel.visible := hv.resolve_left (by simp)
      exact ⟨hread, hread⟩
    | scroll s follow =>
      obtain ⟨focus, hscroll⟩ := s.scroll_eq follow
      rw [hscroll]
      have hfresh : Viewing.Fresh ⟨s, some (.drawn follow)⟩ := hv.resolve_left (by simp)
      exact hfresh
  · have hundrawn := v.screen.undrawn_perform a
    exact showing_congr hvisible hundrawn.visible hundrawn.messages (hv.resolve_left (hno _))
  · exact hv.resolve_left (hno _)

/-- An input asks for a refresh or leaves the visible messages alone, unless the selected rule is
removed or replaced by it and the rules are not saved. -/
theorem current_occurs (h : Occurs v i w) (hcoherent : v.Coherent) (hv : i = .event .read ∨ v.Current) :
    w.Current ∨ v.panel.UnsavedIn (v.calls i) := by
  obtain ⟨r, hr, hin⟩ := hcoherent
  have hvisible : w.panel.visible = (v.panel.run (v.calls i)).visible := by
    obtain ⟨disk, refresher, hpanel, -⟩ := panel_occurs h
    rw [hpanel]
    rfl
  rcases v.panel.visible_run (v.calls i) with hasks | hsame | hunsaved
  · -- The input asks, so a refresh waits.
    left
    have hasks : v.requests i ≠ [] := hasks
    rcases refresher_occurs h with ⟨rfl, -⟩ | ⟨-, hnone, -⟩ | ⟨-, hafter⟩
    · exact absurd rfl hasks
    · exact absurd hnone hasks
    · left
      rw [hr] at hafter
      rw [outstanding_of_attached hafter, (hin.requests _).waits_iff, Refresher.pending_requests,
        List.isEmpty_eq_false_iff.2 hasks]
      simp
  · -- The input changes nothing that is shown, so what was right or waited for stays so.
    left
    have hshowing := showing_occurs h (hvisible.trans hsame)
    rcases hv with hread | hwaits | hv
    · exact .inr (hshowing (.inl hread))
    · -- A refresh that waits goes on waiting until it starts.
      rw [outstanding_of_attached hr, hin.waits_iff] at hwaits
      rcases refresher_occurs h with ⟨rfl, -⟩ | ⟨-, -, hafter⟩ | ⟨-, hafter⟩
      · right
        cases h with
        | event step =>
          cases step with
          | start s r attached waiting => exact trivial
      · left
        rw [hr] at hafter
        rw [outstanding_of_attached hafter, hin.finish.waits_iff]
        exact hwaits
      · left
        rw [hr] at hafter
        rw [outstanding_of_attached hafter, (hin.requests _).waits_iff, Refresher.pending_requests, hwaits]
        rfl
    · exact .inr (hshowing (.inr hv))
  · exact .inr hunsaved

/-! ## §3 Every run -/

/-- The selected rule was removed or replaced and the rules were not saved, and no refresh has read
the panel since. -/
def UnsavedSince (u : Viewing) (inputs : List Input) (v : Viewing) : Prop :=
  ∃ earlier i later t, inputs = earlier ++ i :: later ∧ .event .read ∉ i :: later ∧
    Trace Occurs u earlier t ∧ t.panel.UnsavedIn (t.calls i) ∧ Trace Occurs t (i :: later) v

/-- Until a refresh reads the panel, what was not saved is not made up for. -/
theorem UnsavedSince.concat (h : UnsavedSince u inputs v) (hstep : Occurs v i w)
    (hread : i ≠ .event .read) : UnsavedSince u (inputs ++ [i]) w := by
  obtain ⟨earlier, j, later, t, rfl, hlater, hearlier, hunsaved, hrest⟩ := h
  refine ⟨earlier, j, later ++ [i], t, by simp, ?_, hearlier, hunsaved, hrest.concat hstep⟩
  rw [← List.cons_append, List.mem_append, List.mem_singleton, not_or]
  exact ⟨hlater, hread.symm⟩

/-- Nobody does anything: messages come in, or a refresh does one of its steps. -/
def Event.Unattended : Event → Prop
  | .op (.receive _) => True
  | .op _ => False
  | _ => True

/-- While nobody does anything, no rule is removed or replaced. -/
theorem not_unsavedIn_of_unattended {e : Event} (h : e.Unattended) :
    ¬ v.panel.UnsavedIn (v.calls (.event e)) := by
  rintro ⟨before, op, after, hcalls, hunsaved⟩
  have hmem : op ∈ v.calls (.event e) := by
    rw [hcalls]
    simp
  cases e with
  | op op' =>
    obtain rfl : op = op' := List.mem_singleton.1 hmem
    cases op with
    | receive batch => exact hunsaved
    | _ => exact h
  | _ => exact List.not_mem_nil hmem

/-- Whatever has happened since a view was attached, it is current, unless something was not saved
and no refresh has read the panel since. -/
theorem current_run {s : Screen} (h : Trace Occurs ⟨s.attach, none⟩ inputs v) :
    v.Coherent ∧ (v.Current ∨ UnsavedSince ⟨s.attach, none⟩ inputs v) := by
  induction h with
  | nil => exact ⟨coherent_attach s, .inl (.inl Nat.one_pos)⟩
  | concat hrun hstep ih =>
    rename_i v w inputs i
    obtain ⟨hcoherent, hcases⟩ := ih
    refine ⟨coherent_occurs hstep hcoherent, ?_⟩
    -- A refresh that reads the panel makes up for everything before it.
    by_cases hread : i = .event .read
    · subst hread
      have hcurrent := current_occurs hstep hcoherent (.inl rfl)
      exact .inl (hcurrent.resolve_right (not_unsavedIn_of_unattended trivial))
    rcases hcases with hcurrent | hunsaved
    · rcases current_occurs hstep hcoherent (.inr hcurrent) with hcurrent | hunsaved
      · exact .inl hcurrent
      · exact .inr ⟨inputs, i, [], v, rfl, by simpa using Ne.symm hread, hrun, hunsaved, .single hstep⟩
    · exact .inr (hunsaved.concat hstep hread)

/-- A screen at rest shows what is visible, unless something was not saved and no refresh has read
the panel since. -/
theorem fresh_of_atRest {s : Screen} (h : Trace Occurs ⟨s.attach, none⟩ inputs v) (hrest : v.AtRest) :
    v.Fresh ∨ UnsavedSince ⟨s.attach, none⟩ inputs v := by
  obtain ⟨-, hcurrent | hunsaved⟩ := current_run h
  · exact .inl (fresh_of_current hcurrent hrest)
  · exact .inr hunsaved

/-- While nobody does anything, a view that is current stays so. -/
theorem current_of_unattended {events : List Event} (h : Trace Step v events w)
    (hevents : ∀ e ∈ events, e.Unattended) (hcoherent : v.Coherent) (hv : v.Current) :
    w.Coherent ∧ w.Current := by
  induction h with
  | nil => exact ⟨hcoherent, hv⟩
  | concat _ hstep ih =>
    obtain ⟨hcoherent, hcurrent⟩ := ih fun e he => hevents e (List.mem_append_left _ he)
    have hlast := hevents _ (List.mem_append_right _ (List.mem_singleton_self _))
    exact ⟨coherent_occurs (.event hstep) hcoherent, (current_occurs (.event hstep) hcoherent
      (.inr hcurrent)).resolve_right (not_unsavedIn_of_unattended hlast)⟩

/-- After a refresh that has run without a break, none is outstanding. -/
theorem atRest_runTask {s : Screen} {r : Refresher} (hr : s.panel.refresher = some r) (hin : r.Coherent)
    (hwaits : 0 < r.outstanding) : Viewing.AtRest ⟨s.runTask.1, none⟩ := by
  have hrefresher : s.runTask.1.panel.refresher = some r.start.1.finish := by
    unfold runTask
    rw [hr]
    simp only [if_neg (Nat.ne_of_gt hwaits)]
    unfold draw
    dsimp only
    split
    · exact congrArg Panel.refresher (panel_scrollToLatest _)
    · rfl
  refine ⟨rfl, ?_⟩
  show s.runTask.1.panel.outstanding = 0
  rw [outstanding_of_attached hrefresher]
  exact hin.start.inStep

end Screen

end LogViewer
