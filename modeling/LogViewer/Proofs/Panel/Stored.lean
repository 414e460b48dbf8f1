import LogViewer.Proofs.Panel.SessionRules
import LogViewer.Proofs.Panel.Statements

/-!
# Where stored messages come from

A panel stores no message that it has not received. Whatever else happens to it drops messages or
leaves them as they are.

## Main statements

- `Panel.mem_messages_step`, `Panel.mem_messages_run`: the messages after one operation and several
- `Panel.mem_messages_events`: the messages of a panel that has been started
-/

namespace LogViewer.Panel

/-! ## §1 Operations -/

/-- A store whose capacity is changed keeps no other messages than before. -/
theorem mem_resize {store store' : Store} {n : Int} {dropped : Nat}
    (h : store.resize n = .ok (store', dropped)) : ∀ m ∈ store'.messages, m ∈ store.messages := by
  obtain ⟨c, _, hstore⟩ := map_eq_ok_iff.1 h
  cases hstore
  intro m hm
  exact List.mem_of_mem_drop hm

/-- A message that is kept after an operation was kept before, or it has just come in. -/
theorem mem_messages_step (p : Panel) (op : Op) :
    ∀ m ∈ (p.step op).store.messages,
      m ∈ p.store.messages ∨ ∃ batch, op = .receive batch ∧ m ∈ batch := by
  intro m hm
  cases op with
  | receive batch =>
    cases batch with
    | nil => exact .inl hm
    | cons first batch =>
      -- The store keeps the last messages of the old ones followed by the batch.
      have hall : m ∈ p.store.messages ++ first :: batch := List.mem_of_mem_drop hm
      rcases List.mem_append.1 hall with hold | hnew
      · exact .inl hold
      · exact .inr ⟨_, rfl, hnew⟩
  | clear => cases hm
  | resetSource => cases hm
  | setMaximum n =>
    left
    have hstep : p.step (.setMaximum n) = p.orKeep (p.setMaximum n) := rfl
    rw [hstep] at hm
    unfold setMaximum at hm
    cases hresize : p.store.resize n with
    | error e =>
      rw [hresize] at hm
      exact hm
    | ok resized =>
      rw [hresize] at hm
      exact mem_resize hresize m hm
  | select index => exact .inl hm
  | add r => exact .inl hm
  | remove index =>
    left
    rw [← (store_of_saved (p.remove_eq index)).1]
    exact hm
  | edit index r =>
    left
    rw [← (store_of_saved (p.edit_eq index r)).1]
    exact hm
  | selectApp app =>
    left
    rcases step_selectApp_cases p app with hstep | ⟨index, hstep⟩ | ⟨r, _, hstep⟩
    · rw [hstep] at hm
      exact hm
    · rw [hstep] at hm
      exact hm
    · rw [hstep] at hm
      exact hm
  | setQuery query level =>
    left
    rcases p.step_setQuery_cases query level with hstep | ⟨live, hstep⟩
    · rw [hstep] at hm
      exact hm
    · rw [hstep] at hm
      exact hm

/-- Operations that bring no messages leave none but the old ones. -/
theorem mem_messages_run (p : Panel) {ops : List Op} (silent : ∀ batch, .receive batch ∉ ops) :
    ∀ m ∈ (p.run ops).store.messages, m ∈ p.store.messages := by
  induction ops using List.reverseRecOn with
  | nil => exact fun m hm => hm
  | append_singleton ops op ih =>
    intro m hm
    rw [run_concat] at hm
    rcases mem_messages_step _ op m hm with hold | ⟨batch, rfl, _⟩
    · apply ih _ m hold
      intro batch hbatch
      exact silent batch (List.mem_append_left _ hbatch)
    · exact absurd (List.mem_append_right _ (List.mem_singleton_self _)) (silent batch)

/-! ## §2 Everything that happens -/

theorem messages_of_opens {p : Panel} (h : Opens p) : p.store.messages = [] := by
  induction h with
  | attach _ ih => exact ih
  | start h =>
    obtain ⟨store, _, _, _, hstore, _, _, rfl⟩ := eq_of_start h
    obtain ⟨capacity, _, rfl⟩ := map_eq_ok_iff.1 hstore
    rfl

/-- What is stored after some events was stored before, or one of them has brought it. -/
theorem mem_messages_events {p : Panel} (es : List Event) : ∀ m ∈ (p.events es).store.messages,
    m ∈ p.store.messages ∨ ∃ batch, .act (.perform (.receive batch)) ∈ es ∧ m ∈ batch := by
  induction es generalizing p with
  | nil => exact fun m hm => .inl hm
  | cons e es ih =>
    intro m hm
    rcases ih m hm with hfirst | ⟨batch, hbatch, hmem⟩
    · have hstep : m ∈ p.store.messages ∨
          ∃ batch, e = .act (.perform (.receive batch)) ∧ m ∈ batch := by
        match e, hfirst with
        | .act (.perform op), hfirst =>
          refine (mem_messages_step p op m hfirst).imp_right ?_
          rintro ⟨batch, rfl, hmem⟩
          exact ⟨batch, rfl, hmem⟩
        | .act .attach, hfirst => exact .inl hfirst
        | .act (.refresh _), hfirst => exact .inl hfirst
        | .disk _, hfirst => exact .inl hfirst
      refine hstep.imp_right ?_
      rintro ⟨batch, rfl, hmem⟩
      exact ⟨batch, List.mem_cons_self .., hmem⟩
    · exact .inr ⟨batch, List.mem_cons_of_mem _ hbatch, hmem⟩

end LogViewer.Panel
