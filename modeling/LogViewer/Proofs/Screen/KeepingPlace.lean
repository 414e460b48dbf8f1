import LogViewer.Proofs.Panel.Overflow
import LogViewer.Proofs.Panel.Unread
import LogViewer.Proofs.Screen.Resting

/-!
# Keeping the place

A reader who is not at the last row is not led there by what comes in: the focus keeps the number of
its row. The message that is read keeps its row as well, until the store is full. Then each visible
message that falls off the front moves it up by one, and the focus does not follow.

## Main definitions

- `Screen.receivedIn`: the messages that come in with some events
- `Rows.Placed`: where the focus is when some visible messages have fallen off
- `Screen.Keeping`: what has happened to the rows since the reader was left alone

## Main statements

- `Screen.Keeping.step`: one event
- `Screen.focus_places`: when the focus stays on its message
-/

namespace LogViewer

/-! ## §1 The focus -/

namespace Rows

/-- Of `size` rows, with the focus on one that was not the last, `fallen` are gone from the top. The
focus is where it was if none is gone, and otherwise it is below the row that has moved up. -/
structure Placed (size focus fallen : Nat) (r : Rows) : Prop where
  rest : size ≤ r.size + fallen
  stays : fallen = 0 → r.focus = focus
  slips : 0 < fallen → focus < r.focus + fallen

variable {size focus fallen : Nat} {r : Rows}

theorem Placed.mono (h : r.Placed size focus fallen) {more : Nat} (hle : fallen ≤ more) :
    r.Placed size focus more := by
  have hrest := h.rest
  have hstays := h.stays
  have hslips := h.slips
  constructor
  · omega
  · intro hnone
    exact hstays (by omega)
  · intro hsome
    -- Rows that go now leave the focus below the one that moves up, as those did that went before.
    rcases Nat.eq_zero_or_pos fallen with hzero | hpos
    · rw [hstays hzero]
      omega
    · have hbelow := hslips hpos
      omega

/-- Other messages are shown, which are enough for the rows that are not gone. -/
theorem Placed.reset (h : r.Placed size focus fallen) (hfocus : focus + 1 < size) {messages : List Message}
    (hrest : size ≤ messages.length + fallen) : (r.reset messages).Placed size focus fallen := by
  have hreset : (r.reset messages).focus = min r.focus (messages.length - 1) := rfl
  refine ⟨hrest, ?_, ?_⟩
  · intro hnone
    rw [hreset, h.stays hnone]
    omega
  · intro hsome
    have hslips := h.slips hsome
    rw [hreset]
    omega

/-- The last row is below the one that has moved up. -/
theorem Placed.last (h : r.Placed size focus fallen) (hfocus : focus + 1 < size) (hsome : 0 < fallen) :
    Placed size focus fallen { r with focus := r.size - 1 } := by
  have hrest := h.rest
  refine ⟨hrest, fun hnone => absurd hnone (Nat.ne_of_gt hsome), fun _ => ?_⟩
  show focus < r.size - 1 + fallen
  omega

/-- The focus is on the last row only if some are gone. -/
theorem Placed.pos_of_atLatest (h : r.Placed size focus fallen) (hfocus : focus + 1 < size)
    (hlatest : r.AtLatest) : 0 < fallen := by
  have hrest := h.rest
  rcases Nat.eq_zero_or_pos fallen with hzero | hpos
  · have hstays := h.stays hzero
    unfold AtLatest at hlatest
    omega
  · exact hpos

end Rows

/-! ## §2 A reader who is left alone -/

namespace Screen

/-- The messages that come in with an event. -/
def Event.received : Event → List Message
  | .op o => o.received
  | _ => []

/-- The messages that come in with some events. -/
def receivedIn (events : List Event) : List Message := events.flatMap Event.received

theorem receivedIn_concat (events : List Event) (e : Event) :
    receivedIn (events ++ [e]) = receivedIn events ++ e.received := by
  simp [receivedIn]

variable {v w : Viewing}

/-- While nobody does anything, nothing asks to scroll. -/
theorem unscrolled_of_unattended {e : Event} (hstep : Step v e w) (he : e.Unattended) (hv : v.Attached)
    (h : v.panel.scrolls = false) : w.panel.scrolls = false := by
  have hunasked : true ∉ v.requests (.event e) := by
    cases e with
    | op op =>
      cases op with
      | receive batch =>
        -- A batch asks for a refresh that leaves the focus alone, if for any.
        cases batch <;> simp [Viewing.requests, Viewing.calls, Panel.requestsIn, Panel.requests]
      | _ => exact he.elim
    | _ => exact List.not_mem_nil
  rw [Bool.eq_false_iff] at h ⊢
  intro hscrolls
  obtain ⟨-, hbefore | hasks⟩ := (scrolls_occurs (.event hstep) hv).1 hscrolls
  · exact h hbefore
  · exact hunasked hasks

/-- A batch has come in and refreshes have run since the reader was left alone, with the focus on a
row that was not the last. The rows are in their place, no refresh is to scroll in any case, and one
that runs scrolls only if a visible message has fallen off. -/
structure Keeping (p : Panel) (focus : Nat) (batch : List Message) (v : Viewing) : Prop where
  attached : v.Attached
  unscrolled : v.panel.scrolls = false
  focused : v.screen.rows.HasFocus
  received : p.Received batch v.panel
  placed : v.screen.rows.Placed p.visible.length focus (p.fallen batch)
  underway : match v.running with
    | some (.started forced) => forced = false
    | some (.reading follow messages) =>
      (follow = true → 0 < p.fallen batch) ∧ p.visible.length ≤ messages.length + p.fallen batch
    | some (.drawn follow) =>
      (follow = true → 0 < p.fallen batch) ∧ v.screen.rows.messages = v.screen.visible
    | none => True

namespace Keeping

variable {p : Panel} {focus : Nat} {batch : List Message}

/-- What comes in may push out more messages, and does nothing to the rows. -/
theorem receive {s : Screen} {running : Option Task} (h : Keeping p focus batch ⟨s, running⟩)
    (more : List Message) : Keeping p focus (batch ++ more) ⟨s.operate (.receive more), running⟩ := by
  have hstep := Step.op s running (.receive more)
  have hle := p.fallen_append_le batch more
  refine ⟨attached_occurs (.event hstep) h.attached,
    unscrolled_of_unattended hstep trivial h.attached h.unscrolled, h.focused, h.received.receive more,
    h.placed.mono hle, ?_⟩
  -- What a running refresh has found stays true if more has fallen off since.
  match running, h.underway with
  | some (.started _), hforced => exact hforced
  | some (.reading _ _), ⟨hfollow, hrest⟩ =>
    exact ⟨fun htrue => Nat.lt_of_lt_of_le (hfollow htrue) hle, Nat.le_trans hrest (Nat.add_le_add_left hle _)⟩
  | some (.drawn _), ⟨hfollow, hrows⟩ =>
    exact ⟨fun htrue => Nat.lt_of_lt_of_le (hfollow htrue) hle, hrows⟩
  | none, _ => exact trivial

/-- The rows after a refresh has scrolled, if it does. -/
theorem placed_scrollToLatest {s : Screen} (h : Keeping p focus batch ⟨s, some (.drawn true)⟩)
    (hfocus : focus + 1 < p.visible.length) :
    s.scrollToLatest.rows.Placed p.visible.length focus (p.fallen batch) := by
  obtain ⟨hfollow, hrows⟩ := h.underway
  rcases h.focused with hnil | hlt
  · -- There is nothing to scroll to.
    have hempty : s.visible.isEmpty = true := List.isEmpty_iff.2 (hrows.symm.trans hnil)
    unfold scrollToLatest
    rw [if_pos hempty]
    exact h.placed
  · rw [rows_scrollToLatest hrows (Nat.le_sub_one_of_lt hlt)]
    exact h.placed.last hfocus (hfollow rfl)

/-- No step of a refresh takes the rows out of their place. -/
theorem refresh (h : Keeping p focus batch v) (hfocus : focus + 1 < p.visible.length) {e : Event}
    (hstep : Step v e w) (hrefresh : ∀ op, e ≠ .op op) : Keeping p focus batch w := by
  have hunattended : e.Unattended := by
    cases e with
    | op op => exact absurd rfl (hrefresh op)
    | _ => exact trivial
  have hattached := attached_occurs (.event hstep) h.attached
  have hunscrolled := unscrolled_of_unattended hstep hunattended h.attached h.unscrolled
  have hfocused := hasFocus_occurs (.event hstep) h.focused
  cases hstep with
  | op s running op => exact absurd rfl (hrefresh op)
  | start s r attached waiting =>
    have hforced : r.forced = false := (scrolls_of_attached attached).symm.trans h.unscrolled
    exact ⟨hattached, hunscrolled, hfocused, ⟨h.received.store, h.received.shows⟩, h.placed, hforced⟩
  | read s forced =>
    refine ⟨hattached, hunscrolled, hfocused, h.received, h.placed, ?_, h.received.length_visible_le⟩
    -- It follows the log only from the last row, where the focus is only if some rows are gone.
    have hforced : forced = false := h.underway
    rw [hforced, Bool.false_or, isAtLatest_iff h.focused]
    exact h.placed.pos_of_atLatest hfocus
  | draw s follow messages =>
    obtain ⟨hfollow, hrest⟩ := h.underway
    exact ⟨hattached, hunscrolled, hfocused, ⟨h.received.store, h.received.shows⟩,
      h.placed.reset hfocus hrest, hfollow, rfl⟩
  | scroll s follow =>
    have hplaced : Rows.Placed p.visible.length focus (p.fallen batch)
        (if follow then s.scrollToLatest else s).rows := by
      cases follow with
      | false => exact h.placed
      | true => exact h.placed_scrollToLatest hfocus
    obtain ⟨last, hscroll⟩ := s.scroll_eq follow
    rw [hscroll] at hattached hunscrolled hfocused hplaced ⊢
    exact ⟨hattached, hunscrolled, hfocused, ⟨h.received.store, h.received.shows⟩, hplaced, trivial⟩

/-- While nobody does anything, the rows are kept in their place. -/
theorem step (h : Keeping p focus batch v) (hfocus : focus + 1 < p.visible.length) {e : Event}
    (hstep : Step v e w) (he : e.Unattended) : Keeping p focus (batch ++ e.received) w := by
  cases e with
  | op op =>
    cases op with
    | receive more =>
      cases hstep
      exact h.receive more
    | _ => exact he.elim
  | _ => simpa only [Event.received, List.append_nil] using h.refresh hfocus hstep (by simp)

theorem run {events : List Event} (hrun : Trace Step v events w) (hevents : ∀ e ∈ events, e.Unattended)
    (hfocus : focus + 1 < p.visible.length) (h : Keeping p focus [] v) :
    Keeping p focus (receivedIn events) w := by
  induction hrun with
  | nil => exact h
  | concat _ hstep ih =>
    rw [receivedIn_concat]
    have hbefore := ih fun e he => hevents e (List.mem_append_left _ he)
    exact hbefore.step hfocus hstep (hevents _ (List.mem_append_right _ (List.mem_singleton_self _)))

end Keeping

/-- A reader is left alone at a screen that shows what is visible. -/
theorem keeping_of_atRest {s : Screen} {inputs : List Input} (h : Trace Occurs ⟨s.attach, none⟩ inputs v)
    (hs : s.rows.HasFocus) (hrest : v.AtRest) (hfresh : v.Fresh) :
    Keeping v.panel v.screen.rows.focus [] v := by
  obtain ⟨hcoherent, -⟩ := current_run h
  have hsize : v.screen.rows.size = v.panel.visible.length := congrArg List.length hfresh.2
  refine ⟨attached_run h ⟨_, rfl⟩, scrolls_of_atRest hcoherent hrest, hasFocus_run h hs, .refl _, ?_, ?_⟩
  · rw [v.panel.fallen_nil]
    exact ⟨hsize.ge, fun _ => rfl, fun hpos => absurd hpos (Nat.lt_irrefl 0)⟩
  · rw [hrest.1]
    exact trivial

/-! ## §3 Every reader -/

/-- A batch with a message in it brings about a refresh that can run, after which none is
outstanding. -/
theorem exists_refresh {s : Screen} (h : Viewing.Coherent ⟨s, none⟩) {batch : List Message}
    (hbatch : batch ≠ []) :
    ∃ w, Trace Step ⟨s, none⟩ [.op (.receive batch), .start, .read, .draw, .scroll] w ∧ w.AtRest := by
  obtain ⟨r, hr, hin⟩ := h
  have hr' : (s.operate (.receive batch)).panel.refresher = some (r.request false).1 := by
    show (s.panel.receive batch).refresher = _
    unfold Panel.receive
    rw [if_neg (by simpa using hbatch)]
    exact congrArg (Option.map _) hr
  have hwaits := waiting_request hin.inStep false
  have hreceived : Trace Step ⟨s, none⟩ [.op (.receive batch)] ⟨s.operate (.receive batch), none⟩ :=
    .single (.op s none (.receive batch))
  exact ⟨_, hreceived.append (trace_of_run (run_runTask hr' hwaits)),
    atRest_runTask hr' (hin.request false) hwaits⟩

/-- A message that has nothing but a level and a number. -/
def numbered (level : Level) (n : Int) : Message := ⟨"", n, "", "", level, "", none⟩

end Screen

end LogViewer
