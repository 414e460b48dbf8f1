import LogViewer.Panel
import LogViewer.Proofs.Outcomes
import LogViewer.Proofs.Rules.Changes

/-!
# Runs of a panel

A run is a list of operations on a panel, in the order in which they happen. An operation that fails
leaves the panel as the failure leaves it: most change nothing, while those that save have changed
the rules before the saving fails.

## Main definitions

- `Panel.Op`, `Panel.step`, `Panel.run`: the operations, one of them and a run of them
- `Panel.Opens`, `Panel.fresh`: the panels that runs begin with, and one of them

## Main statements

- `Panel.eq_of_start`, `Panel.build_of_opens`: what a panel starts with
- `Panel.rules_receive` to `Panel.rules_setQuery`: each operation works on the rules as the
  operation of the rule set does -/

namespace LogViewer.Panel

/-! ## §1 Operations -/

/-- An operation on a panel. -/
inductive Op where
  | receive (batch : List Message)
  | clear
  | resetSource
  | setMaximum (n : Int)
  | select (index : Int)
  | add (r : Rule)
  | remove (index : Int)
  | edit (index : Int) (r : Rule)
  | selectApp (app : Text)
  | setQuery (query : Text) (level : Level)

/-- What is left of an operation that gives no panel if it fails. -/
def orKeep {ε : Type} (p : Panel) : Except ε Panel → Panel
  | .ok q => q
  | .error _ => p

/-- The panel after an operation, whether it fails or not. -/
def step (p : Panel) : Op → Panel
  | .receive batch => p.receive batch
  | .clear => p.clear
  | .resetSource => p.resetSource
  | .setMaximum n => p.orKeep (p.setMaximum n)
  | .select index => (p.select index).1
  | .add r => (p.add r).1
  | .remove index => (p.remove index).1
  | .edit index r => (p.edit index r).1
  | .selectApp app => p.orKeep ((p.selectApp app).map (·.1))
  | .setQuery query level => p.orKeep (p.setQuery query level)

/-- The panel after some operations. -/
def run (p : Panel) (ops : List Op) : Panel := ops.foldl step p

@[simp] theorem run_nil (p : Panel) : p.run [] = p := rfl

@[simp] theorem run_concat (p : Panel) (ops : List Op) (op : Op) :
    p.run (ops ++ [op]) = (p.run ops).step op := by
  unfold run
  rw [List.foldl_append, List.foldl_cons, List.foldl_nil]

theorem run_append (p : Panel) (ops more : List Op) : p.run (ops ++ more) = (p.run ops).run more := by
  unfold run
  rw [List.foldl_append]

/-- The panels that a run begins with: one that has been started, with or without a view. -/
inductive Opens : Panel → Prop
  | start {maximum : Int} {storage : Storage} {disk : Disk} {p : Panel} :
      (Panel.start maximum storage disk).result = .ok p → Opens p
  | attach {p : Panel} : Opens p → Opens p.attach

/-- A panel that keeps five messages and no saved rules, to which nothing has happened. -/
def fresh : Panel :=
  ⟨.empty 5 (by decide), 5, .ofRules [], "", .verbose, [openRule], .memory "", .empty, none, []⟩

theorem start_fresh : (Panel.start 5 (.memory "") .empty).result = .ok fresh := rfl

/-! ## §2 The rules -/

@[simp] theorem rules_requestRefresh (p : Panel) (scroll : Bool) :
    (p.requestRefresh scroll).rules = p.rules := rfl

@[simp] theorem rules_save (p : Panel) : p.save.1.rules = p.rules := rfl

@[simp] theorem rules_attach (p : Panel) : p.attach.rules = p.rules := rfl

@[simp] theorem rules_refreshIf (p : Panel) (changed : Bool)
    (saved : Except RuleFile.SaveFault Unit) : (p.refreshIf changed saved).1.rules = p.rules := by
  cases saved with
  | ok _ => cases changed <;> rfl
  | error _ => rfl

/-- A panel that has been started has an empty store, the rules of the saved text and no view, and
its storage is the given one. -/
theorem eq_of_start {maximum : Int} {storage : Storage} {disk : Disk} {p : Panel}
    (h : (Panel.start maximum storage disk).result = .ok p) :
    ∃ store text rules warnings, Store.ofCapacity maximum = .ok store ∧
      (storage.load disk).result = .ok text ∧ (SavedRules.decodeAll text).result = .ok rules ∧
      p = ⟨store, store.capacity, .ofRules rules, "", .verbose, [openRule], storage, disk, none,
        warnings⟩ := by
  unfold Panel.start at h
  cases hstore : Store.ofCapacity maximum with
  | error e =>
    rw [hstore] at h
    cases h
  | ok store =>
    cases hloaded : (storage.load disk).result with
    | error e =>
      simp only [hstore, hloaded] at h
      cases h
    | ok text =>
      simp only [hstore, hloaded, ofText, ofTextWithin] at h
      cases hrules : (SavedRules.decodeAllWithin .endless text).result with
      | error e =>
        simp only [hrules] at h
        cases h
      | ok rules =>
        simp only [hrules, Except.ok.injEq] at h
        exact ⟨store, text, rules, _, rfl, rfl, hrules, h.symm⟩

/-- A panel starts with the rules of a saved text. -/
theorem rules_of_start {maximum : Int} {storage : Storage} {disk : Disk} {p : Panel}
    (h : (Panel.start maximum storage disk).result = .ok p) :
    ∃ text rules, (SavedRules.decodeAll text).result = .ok rules ∧ p.rules = .ofRules rules := by
  obtain ⟨_, text, rules, _, _, _, hrules, rfl⟩ := eq_of_start h
  exact ⟨text, rules, hrules, rfl⟩

/-- A rule of a line is built as one that lasts. -/
theorem build_of_decode {line : Text} {r : Rule} (h : SavedRule.decode line = .ok r) :
    ∃ c, Rule.build c false = .ok r := by
  unfold SavedRule.decode at h
  obtain ⟨v, -, h⟩ := bind_eq_ok_iff.1 h
  cases v with
  | obj members =>
    obtain ⟨criteria, -, h⟩ := bind_eq_ok_iff.1 h
    refine ⟨criteria, ?_⟩
    cases hbuild : Rule.build criteria false with
    | error e =>
      rw [hbuild] at h
      cases h
    | ok r' =>
      rw [hbuild] at h
      cases h
      rfl
  | _ => cases h

/-- The rules of a text are built as rules that last. -/
theorem build_of_decodeLines {k : Stack} {number : Nat} {lines : List Text} {rules : List Rule}
    (h : (SavedRules.decodeLines k number lines).result = .ok rules) :
    ∀ r ∈ rules, ∃ c, Rule.build c false = .ok r := by
  induction lines generalizing number rules with
  | nil =>
    cases h
    simp
  | cons line lines ih =>
    rw [SavedRules.decodeLines] at h
    split at h
    · exact ih h
    split at h
    · cases h
    split at h
    · next rule hdecode =>
      obtain ⟨rest, hrest, rfl⟩ := map_eq_ok_iff.1 h
      intro r hr
      rcases List.mem_cons.1 hr with rfl | hr
      · exact build_of_decode hdecode
      · exact ih hrest r hr
    · split at h
      · cases h
      · exact ih h

/-- The rules that a panel begins with have just been built, and none of them is of this session. -/
theorem build_of_opens {p : Panel} (h : Opens p) :
    ∀ r ∈ p.rules.rules, ∃ c, Rule.build c false = .ok r := by
  induction h with
  | attach _ ih => exact ih
  | start h =>
    obtain ⟨text, rules, hrules, hp⟩ := rules_of_start h
    intro r hr
    rw [hp] at hr
    rcases List.mem_cons.1 hr with rfl | hr
    · exact ⟨.named defaultRuleName, rfl⟩
    · exact build_of_decodeLines hrules r hr

/-- A batch is counted, an empty one to no effect. -/
@[simp] theorem rules_receive (p : Panel) (batch : List Message) :
    (p.receive batch).rules = p.rules.countUnread batch := by
  cases batch with
  | nil => exact (RuleSet.countUnread_nil p.rules).symm
  | cons m batch => rfl

@[simp] theorem rules_clear (p : Panel) : p.clear.rules = p.rules := rfl

@[simp] theorem rules_resetSource (p : Panel) : p.resetSource.rules = p.rules.markRead := rfl

@[simp] theorem rules_select (p : Panel) (index : Int) :
    (p.select index).1.rules = (p.rules.select index).1 := rfl

@[simp] theorem rules_add (p : Panel) (r : Rule) : (p.add r).1.rules = (p.rules.add r).1 := rfl

@[simp] theorem rules_remove (p : Panel) (index : Int) :
    (p.remove index).1.rules = (p.rules.remove index).1 := by
  rcases p.rules.remove_cases index with ⟨hsame, _⟩ | ⟨k, _, _, _, hdone, _⟩
  · simp [remove, hsame]
  · simp [remove, hdone]

@[simp] theorem rules_edit (p : Panel) (index : Int) (r : Rule) :
    (p.edit index r).1.rules = (p.rules.replace index r).1 := by
  rcases p.rules.replace_cases index r with ⟨hsame, _⟩ | ⟨k, _, _, _, hdone, _⟩
  · simp [edit, hsame]
  · simp [edit, hdone]

/-- A new capacity is set and a refresh asked for, if it is a capacity. -/
theorem step_setMaximum_cases (p : Panel) (n : Int) :
    p.step (.setMaximum n) = p ∨ ∃ store : Store, p.step (.setMaximum n)
      = requestRefresh { p with store, maximum := store.capacity } false := by
  have hstep : p.step (.setMaximum n) = p.orKeep (p.setMaximum n) := rfl
  rw [hstep]
  unfold setMaximum
  cases p.store.resize n with
  | error e => exact .inl rfl
  | ok resized => exact .inr ⟨resized.1, rfl⟩

/-- A live query is set and a refresh asked for, if its rules can be built. -/
theorem step_setQuery_cases (p : Panel) (query : Text) (level : Level) :
    p.step (.setQuery query level) = p ∨ ∃ live, p.step (.setQuery query level)
      = requestRefresh { p with query, level, live } true := by
  have hstep : p.step (.setQuery query level) = p.orKeep (p.setQuery query level) := rfl
  rw [hstep]
  unfold setQuery
  cases Query.rules query level with
  | error e => exact .inl rfl
  | ok live => exact .inr ⟨live, rfl⟩

/-- Selecting the session rule of an application selects the one that is found. If there is none, it
is built, added and selected. -/
theorem selectApp_cases {p q : Panel} {app : Text} {i : Nat} (h : p.selectApp app = .ok (q, i)) :
    (∃ k : Nat, p.rules.sessionRule? app = some k ∧ p.select k = (q, i)) ∨
    ∃ r, p.rules.sessionRule? app = none ∧ Rule.build (sessionCriteria app) true = .ok r ∧
      select { p with rules := (p.rules.add r).1 } p.rules.rules.length = (q, i) := by
  unfold selectApp at h
  cases hfound : p.rules.sessionRule? app with
  | some k =>
    rw [hfound] at h
    exact .inl ⟨k, rfl, Except.ok.inj h⟩
  | none =>
    rw [hfound] at h
    obtain ⟨r, hbuild, hselect⟩ := bind_eq_ok_iff.1 h
    exact .inr ⟨r, rfl, hbuild, Except.ok.inj hselect⟩

/-- Selecting the session rule of an application gives the panel after that operation. -/
theorem step_of_selectApp {p q : Panel} {app : Text} {i : Nat} (h : p.selectApp app = .ok (q, i)) :
    p.step (.selectApp app) = q := by
  show p.orKeep ((p.selectApp app).map (·.1)) = q
  rw [h]
  rfl

/-- Selecting the session rule of an application fails and leaves the panel alone, or it gives the
panel afterwards. -/
theorem step_selectApp (p : Panel) (app : Text) :
    p.step (.selectApp app) = p ∨
    ∃ q i, p.selectApp app = .ok (q, i) ∧ p.step (.selectApp app) = q := by
  cases h : p.selectApp app with
  | error e =>
    left
    show p.orKeep ((p.selectApp app).map (·.1)) = p
    rw [h]
    rfl
  | ok result => exact .inr ⟨result.1, result.2, rfl, step_of_selectApp h⟩

/-- The session rule of an application is selected if it is there. Otherwise it is built, added and
selected, and nothing happens if it cannot be built. -/
theorem step_selectApp_eq (p : Panel) (app : Text) :
    p.step (.selectApp app) = p ∨
    (∃ i, p.rules.sessionRule? app = some i ∧ p.step (.selectApp app) = (p.select i).1) ∨
    ∃ r, p.rules.sessionRule? app = none ∧ Rule.build (sessionCriteria app) true = .ok r ∧
      p.step (.selectApp app)
        = (select { p with rules := (p.rules.add r).1 } p.rules.rules.length).1 := by
  rcases p.step_selectApp app with hstep | ⟨q, i, hselect, hstep⟩
  · exact .inl hstep
  · rw [hstep]
    rcases selectApp_cases hselect with ⟨k, hfound, hq⟩ | ⟨r, hnone, hbuild, hq⟩
    · exact .inr (.inl ⟨k, hfound, (congrArg Prod.fst hq).symm⟩)
    · exact .inr (.inr ⟨r, hnone, hbuild, (congrArg Prod.fst hq).symm⟩)

/-- Selecting the session rule of an application selects a rule, which may be a new one. -/
theorem step_selectApp_cases (p : Panel) (app : Text) :
    p.step (.selectApp app) = p ∨
    (∃ index : Int, p.step (.selectApp app) = (p.select index).1) ∨
    ∃ r : Rule, r.unread = 0 ∧ p.step (.selectApp app)
      = (select { p with rules := (p.rules.add r).1 } p.rules.rules.length).1 := by
  rcases p.step_selectApp_eq app with hstep | ⟨i, _, hstep⟩ | ⟨r, _, hbuild, hstep⟩
  · exact .inl hstep
  · exact .inr (.inl ⟨i, hstep⟩)
  · exact .inr (.inr ⟨r, Rule.unread_of_build hbuild, hstep⟩)

/-- A new capacity leaves the rules alone. -/
@[simp] theorem rules_setMaximum (p : Panel) (n : Int) :
    (p.step (.setMaximum n)).rules = p.rules := by
  rcases p.step_setMaximum_cases n with hstep | ⟨store, hstep⟩
  · rw [hstep]
  · rw [hstep, rules_requestRefresh]

/-- A live query leaves the rules alone. -/
@[simp] theorem rules_setQuery (p : Panel) (query : Text) (level : Level) :
    (p.step (.setQuery query level)).rules = p.rules := by
  rcases p.step_setQuery_cases query level with hstep | ⟨live, hstep⟩
  · rw [hstep]
  · rw [hstep, rules_requestRefresh]

end LogViewer.Panel
