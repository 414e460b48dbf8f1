import LogViewer.Proofs.Panel.Requests
import Mathlib.Data.List.Induction

/-!
# The saved text

The saved text has a line for each rule that is to be saved. It depends on what these rules ask, and
not on their unread counts or on the selection, nor on the rules of this session. So only the
operations that add, remove or replace a rule can make it out of date, and these save it at once.

## Main definitions

- `Panel.Changes`: an operation adds, removes or replaces a rule
- `Panel.Action`, `Panel.actions`: operations, with changes of the view between them
- `Panel.Changed`: some operation has added, removed or replaced a rule

## Main statements

- `RuleSet.exportRules_congr`: what the saved text depends on
- `Panel.step_saves_or_keeps`: an operation saves the rules or leaves their text alone
- `Panel.savedText_run`: the saved text after a run
-/

namespace LogViewer

namespace RuleSet

open SavedRules (exportRules)

/-! ## §1 What the saved text depends on -/

/-- The saved text depends on what the rules ask and on which of them are of this session. -/
theorem exportRules_congr {s t : RuleSet}
    (h : s.rules.map (fun r => (r.criteria, r.transient))
      = t.rules.map fun r => (r.criteria, r.transient)) : exportRules s = exportRules t := by
  have hcriteria : ∀ s : RuleSet, s.persistent.map Rule.criteria
      = ((((s.rules.map fun r => (r.criteria, r.transient)).drop 1).filter fun q => !q.2).map
          Prod.fst) := by
    intro s
    rw [← List.map_drop, List.filter_map, List.map_map]
    rfl
  have hlines : ∀ s : RuleSet, exportRules s
      = Text.intercalate "\n" ((s.persistent.map Rule.criteria).map SavedRule.encode) := by
    intro s
    rw [List.map_map]
    rfl
  rw [hlines, hlines, hcriteria, hcriteria, h]

/-- Selecting a rule leaves the saved text alone. -/
theorem exportRules_select (s : RuleSet) (index : Int) :
    exportRules (s.select index).1 = exportRules s :=
  exportRules_congr (map_select _ (fun _ => rfl) s index)

/-- Counting a batch leaves the saved text alone. -/
theorem exportRules_countUnread (s : RuleSet) (batch : List Message) :
    exportRules (s.countUnread batch) = exportRules s :=
  exportRules_congr (map_countUnread _ (fun _ _ => rfl) s batch)

/-- Reading all rules leaves the saved text alone. -/
theorem exportRules_markRead (s : RuleSet) : exportRules s.markRead = exportRules s :=
  exportRules_congr (map_markRead _ (fun _ => rfl) s)

/-- A rule of this session is not in the saved text. -/
theorem exportRules_add {s : RuleSet} {r : Rule} (h : r.transient = true) :
    exportRules (s.add r).1 = exportRules s := by
  have hpersistent : (s.add r).1.persistent = s.persistent := by
    unfold persistent
    rw [add_rules, List.drop_append_of_le_length s.default_first.length_pos, List.filter_append]
    simp [h]
  unfold exportRules
  rw [hpersistent]

end RuleSet

namespace Panel

/-! ## §2 One operation -/

/-- An operation adds, removes or replaces a rule, and succeeds. -/
def Changes (p : Panel) : Op → Prop
  | .add r => ∃ i, (p.add r).2 = .ok i
  | .remove index => (p.remove index).2 = .ok true
  | .edit index r => (p.edit index r).2 = .ok true
  | _ => False

/-- Saving in memory cannot fail. -/
theorem save_memory {p : Panel} {text : Text} (h : p.storage = .memory text) :
    p.save = ({ p with storage := .memory p.exportRules }, .ok ()) := by
  unfold save
  rw [h]
  simp [Storage.save]

/-- Saving changed rules in memory succeeds, and they stay saved when a refresh is asked for. A
change that is refused leaves everything alone. -/
theorem saves_or_keeps {p : Panel} {text : Text} (h : p.storage = .memory text) {rules : RuleSet}
    {changed : Bool} {after : Panel × Except RuleFile.SaveFault Bool}
    (hafter : after = (p, .ok false) ∨
      after = (save { p with rules }).1.refreshIf changed (save { p with rules }).2) :
    (after.2 = .ok true ∧ after.1.storage = .memory after.1.exportRules) ∨
    (¬ after.2 = .ok true ∧ after.1.storage = p.storage ∧ after.1.exportRules = p.exportRules) := by
  rcases hafter with rfl | rfl
  · exact .inr ⟨by simp, rfl, rfl⟩
  · have hmemory : ({ p with rules } : Panel).storage = .memory text := h
    left
    rw [save_memory hmemory]
    cases changed <;> exact ⟨rfl, rfl⟩

/-- With its rules saved in memory, an operation succeeds in changing the rules and has saved them
afterwards, or it leaves the saved text and the text of the rules alone. -/
theorem step_saves_or_keeps {p : Panel} {text : Text} (h : p.storage = .memory text) (op : Op) :
    (p.Changes op ∧ (p.step op).storage = .memory (p.step op).exportRules) ∨
    (¬ p.Changes op ∧ (p.step op).storage = p.storage ∧
      (p.step op).exportRules = p.exportRules) := by
  cases op with
  | receive batch =>
    refine .inr ⟨not_false, ?_, ?_⟩
    · cases batch <;> rfl
    · exact (congrArg SavedRules.exportRules (p.rules_receive batch)).trans
        (p.rules.exportRules_countUnread batch)
  -- These change no rule, or only what is read of it, which is not saved.
  | clear => exact .inr ⟨not_false, rfl, rfl⟩
  | resetSource => exact .inr ⟨not_false, rfl, p.rules.exportRules_markRead⟩
  | setMaximum n =>
    right
    rcases p.step_setMaximum_cases n with hstep | ⟨store, hstep⟩
    · rw [hstep]
      exact ⟨not_false, rfl, rfl⟩
    · rw [hstep]
      exact ⟨not_false, rfl, rfl⟩
  | setQuery query level =>
    right
    rcases p.step_setQuery_cases query level with hstep | ⟨live, hstep⟩
    · rw [hstep]
      exact ⟨not_false, rfl, rfl⟩
    · rw [hstep]
      exact ⟨not_false, rfl, rfl⟩
  | select index => exact .inr ⟨not_false, rfl, p.rules.exportRules_select index⟩
  | selectApp app =>
    right
    rcases p.step_selectApp_eq app with hstep | ⟨i, _, hstep⟩ | ⟨r, _, hbuild, hstep⟩
    · rw [hstep]
      exact ⟨not_false, rfl, rfl⟩
    · rw [hstep]
      exact ⟨not_false, rfl, p.rules.exportRules_select i⟩
    · -- The new rule is of this session.
      have hadded := RuleSet.exportRules_add (s := p.rules) (Rule.transient_of_build hbuild)
      rw [hstep]
      exact ⟨not_false, rfl, ((p.rules.add r).1.exportRules_select _).trans hadded⟩
  | add r =>
    left
    -- An addition is never refused, so it is always saved.
    have hmemory : ({ p with rules := (p.rules.add r).1 } : Panel).storage = .memory text := h
    have hadd : p.add r = ((save { p with rules := (p.rules.add r).1 }).1,
        (save { p with rules := (p.rules.add r).1 }).2.map fun _ => p.rules.rules.length) := rfl
    rw [save_memory hmemory] at hadd
    have hstep : p.step (.add r) = (p.add r).1 := rfl
    rw [hstep]
    refine ⟨⟨p.rules.rules.length, congrArg Prod.snd hadd⟩, ?_⟩
    rw [hadd]
    rfl
  -- A removal and a replacement are saved only if they are not refused.
  | remove index => exact saves_or_keeps h (p.remove_eq index)
  | edit index r => exact saves_or_keeps h (p.edit_eq index r)

/-! ## §3 Whole runs -/

/-- What happens to a panel. -/
inductive Action where
  | perform (op : Op)
  | attach
  /-- A refresh of the view goes on, which reads the panel and changes what is to be refreshed. -/
  | refresh (r : Option Refresher)

/-- The panel after one action. -/
def act (p : Panel) : Action → Panel
  | .perform op => p.step op
  | .attach => p.attach
  | .refresh r => { p with refresher := r }

/-- The panel after some actions. -/
def actions (p : Panel) (as : List Action) : Panel := as.foldl act p

/-- An action adds, removes or replaces a rule, and succeeds. -/
def Action.Changes (p : Panel) : Action → Prop
  | .perform op => p.Changes op
  | .attach | .refresh _ => False

/-- In a run, some operation has added, removed or replaced a rule. -/
def Changed (p : Panel) (as : List Action) : Prop :=
  ∃ before op after, as = before ++ .perform op :: after ∧ (p.actions before).Changes op

@[simp] theorem actions_nil (p : Panel) : p.actions [] = p := rfl

@[simp] theorem actions_concat (p : Panel) (as : List Action) (a : Action) :
    p.actions (as ++ [a]) = (p.actions as).act a := by
  unfold actions
  rw [List.foldl_append, List.foldl_cons, List.foldl_nil]

/-- With its rules saved in memory, an action succeeds in changing the rules and has saved them
afterwards, or it leaves the saved text and the text of the rules alone. -/
theorem act_saves_or_keeps {p : Panel} {text : Text} (h : p.storage = .memory text) (a : Action) :
    (a.Changes p ∧ (p.act a).storage = .memory (p.act a).exportRules) ∨
    (¬ a.Changes p ∧ (p.act a).storage = p.storage ∧ (p.act a).exportRules = p.exportRules) := by
  cases a with
  | perform op => exact step_saves_or_keeps h op
  | attach => exact .inr ⟨not_false, rfl, rfl⟩
  | refresh r => exact .inr ⟨not_false, rfl, rfl⟩

theorem not_changed_nil (p : Panel) : ¬ p.Changed [] := by
  rintro ⟨before, op, after, hsplit, _⟩
  simp at hsplit

theorem changed_concat_iff (p : Panel) (as : List Action) (a : Action) :
    p.Changed (as ++ [a]) ↔ p.Changed as ∨ a.Changes (p.actions as) := by
  constructor
  · rintro ⟨before, op, after, hsplit, hchanges⟩
    -- The operation is the last action or stands before it.
    rcases List.eq_nil_or_concat after with rfl | ⟨after, last, rfl⟩
    · obtain ⟨rfl, hop⟩ := List.append_inj' hsplit rfl
      cases hop
      exact .inr hchanges
    · rw [List.concat_eq_append, ← List.cons_append, ← List.append_assoc] at hsplit
      obtain ⟨rfl, _⟩ := List.append_inj' hsplit rfl
      exact .inl ⟨before, op, after, rfl, hchanges⟩
  · rintro (⟨before, op, after, rfl, hchanges⟩ | hchanges)
    · exact ⟨before, op, after ++ [a], by simp, hchanges⟩
    · cases a with
      | perform op => exact ⟨as, op, [], rfl, hchanges⟩
      | attach => exact hchanges.elim
      | refresh r => exact hchanges.elim

/-- With rules saved in memory, the saved text is the one at the start until the rules are changed,
and from then on it is that of the rules. -/
theorem storage_actions {p : Panel} {text : Text} (hp : p.storage = .memory text)
    (as : List Action) :
    (¬ p.Changed as ∧ (p.actions as).storage = .memory text) ∨
    (p.Changed as ∧ (p.actions as).storage = .memory (p.actions as).exportRules) := by
  induction as using List.reverseRecOn with
  | nil => exact .inl ⟨p.not_changed_nil, hp⟩
  | append_singleton as a ih =>
    rw [actions_concat, changed_concat_iff]
    have hmemory : ∃ now, (p.actions as).storage = .memory now := by
      rcases ih with ⟨_, hbefore⟩ | ⟨_, hbefore⟩
      · exact ⟨_, hbefore⟩
      · exact ⟨_, hbefore⟩
    obtain ⟨now, hnow⟩ := hmemory
    rcases act_saves_or_keeps hnow a with ⟨hchanges, hsaved⟩ | ⟨hchanges, hstorage, hexport⟩
    · exact .inr ⟨.inr hchanges, hsaved⟩
    · -- What was saved before stays saved.
      rcases ih with ⟨hchanged, hbefore⟩ | ⟨hchanged, hbefore⟩
      · exact .inl ⟨fun h => h.elim hchanged hchanges, hstorage.trans hbefore⟩
      · refine .inr ⟨.inl hchanged, ?_⟩
        rw [hstorage, hexport, hbefore]

/-- After any run of operations on a panel that has been started with a text in memory, whatever is
done to its view in between, the saved text is that one as long as no operation has succeeded in
adding, removing or replacing a rule. From then on it is the text of the rules of the panel. -/
theorem savedText_run {maximum : Int} {text : Text} {disk : Disk} {p : Panel}
    (h : (Panel.start maximum (.memory text) disk).result = .ok p) (as : List Action) :
    (¬ p.Changed as → (p.actions as).storage = .memory text) ∧
    (p.Changed as → (p.actions as).storage = .memory (p.actions as).exportRules) := by
  have hstorage : p.storage = .memory text := by
    obtain ⟨_, _, _, _, _, _, _, rfl⟩ := eq_of_start h
    rfl
  rcases storage_actions hstorage as with ⟨hchanged, hsaved⟩ | ⟨hchanged, hsaved⟩
  · exact ⟨fun _ => hsaved, fun hchanges => absurd hchanges hchanged⟩
  · exact ⟨fun hkept => absurd hchanged hkept, fun _ => hsaved⟩

/-- A panel that starts with a blank line keeps it as it is while a view is attached and messages
come in and are removed, and then saves a rule that is added. -/
theorem savedText_run_added :
    ∃ (p : Panel) (rule : Rule) (m : Message) (as : List Action),
      (Panel.start 5 (.memory "\n") .empty).result = .ok p ∧
      as = [.attach, .perform (.receive [m]), .perform (.select 1), .perform .clear] ∧
      ¬ p.Changed as ∧ (p.actions as).storage = .memory "\n" ∧
      p.Changed (as ++ [.perform (.add rule), .perform (.select 1)]) ∧
      (p.actions (as ++ [.perform (.add rule), .perform (.select 1)])).storage
        = .memory (p.actions (as ++ [.perform (.add rule), .perform (.select 1)])).exportRules := by
  let rule : Rule := ⟨.named "all", ⟨none, none, none⟩, false, 0, rfl⟩
  let m : Message := ⟨"", 1, "", "", .info, "", none⟩
  let p : Panel :=
    ⟨.empty 5 (by decide), 5, .ofRules [], "", .verbose, [openRule], .memory "\n", .empty, none, []⟩
  let as : List Action :=
    [.attach, .perform (.receive [m]), .perform (.select 1), .perform .clear]
  have hstart : (Panel.start 5 (.memory "\n") .empty).result = .ok p := rfl
  have hkept : ¬ p.Changed as := by
    rintro ⟨before, op, after, hsplit, hchanges⟩
    have hmem : Action.perform op ∈ as := hsplit ▸ List.mem_append_right before (List.mem_cons_self ..)
    simp only [as, List.mem_cons, List.not_mem_nil, or_false, Action.perform.injEq, reduceCtorEq,
      false_or] at hmem
    rcases hmem with rfl | rfl | rfl
    · exact hchanges
    · exact hchanges
    · exact hchanges
  have hadded : p.Changed (as ++ [.perform (.add rule), .perform (.select 1)]) :=
    ⟨as, .add rule, [.perform (.select 1)], rfl, 1, rfl⟩
  obtain ⟨hbefore, _⟩ := savedText_run hstart as
  obtain ⟨_, hafter⟩ := savedText_run hstart (as ++ [.perform (.add rule), .perform (.select 1)])
  have hfirst := hbefore hkept
  have hthen := hafter hadded
  exact ⟨p, rule, m, as, hstart, rfl, hkept, hfirst, hadded, hthen⟩

end Panel

end LogViewer
