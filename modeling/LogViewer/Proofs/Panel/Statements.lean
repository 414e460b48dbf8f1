import LogViewer.Proofs.Outcomes
import LogViewer.Proofs.Panel.Saved
import LogViewer.Proofs.Store.Run

/-!
# Operations, statement by statement

An operation on a panel works in several statements, each of which changes a field, calls something
that may fail or asks for a refresh. A failure ends the operation where it stands: what was changed
before stays changed, and what comes after is left undone. So it depends on the order of the
statements whether an operation that fails leaves the panel as it was.

Here every operation is written as its statements in their order. They are proved to come to what
the operation of the panel gives, and from there it is read off that the operations that check
something do so before their first change.

## Main definitions

- `Panel.Statements`, `Panel.exec`: statements, and the panel that they leave with their outcome
- `Panel.Statements.setMaximum` to `Panel.Statements.editCopy`: the operations in statements
- `Panel.Statements.ofOp`: the statements of an operation

## Main statements

- `Panel.exec_ofOp`: the statements of an operation leave the panel that the operation gives
- `Panel.maximum_actions`: the number of messages to keep is the capacity of the store
- `Panel.unchanged_of_failure`: an operation whose check fails changes nothing
-/

namespace LogViewer.Panel

/-! ## §1 Statements -/

/-- Why a statement fails. -/
inductive Failure where
  | capacity (e : CapacityError)
  | rule (e : RuleError)
  | save (e : RuleFile.SaveFault)
  | position (e : OutOfRange)
deriving DecidableEq, Repr

/-- Statements that work on a panel and may fail. -/
abbrev Statements (α : Type) := ExceptT Failure (StateM Panel) α

variable {ε α β : Type}

/-- Carries statements out: gives their outcome and the panel that they leave, also if they fail. -/
def exec (x : Statements α) (p : Panel) : Except Failure α × Panel := x p

/-- A call that gives something or fails, and changes nothing. -/
def need (failure : ε → Failure) : Except ε α → Statements α
  | .ok a => pure a
  | .error e => throw (failure e)

@[simp] theorem exec_pure (a : α) (p : Panel) : exec (pure a) p = (.ok a, p) := rfl

@[simp] theorem exec_throw (e : Failure) (p : Panel) :
    exec (throw e : Statements α) p = (.error e, p) := rfl

@[simp] theorem exec_get (p : Panel) : exec get p = (.ok p, p) := rfl

@[simp] theorem exec_modify (f : Panel → Panel) (p : Panel) : exec (modify f) p = (.ok (), f p) := rfl

/-- A failure ends the statements, and what was changed before it stays changed. -/
theorem exec_bind (x : Statements α) (f : α → Statements β) (p : Panel) :
    exec (x >>= f) p = match exec x p with
      | (.ok a, q) => exec (f a) q
      | (.error e, q) => (.error e, q) := by
  show (ExceptT.bindCont f (x p).1 : StateM Panel _) (x p).2 = _
  unfold exec
  rcases x p with ⟨a | e, q⟩ <;> rfl

@[simp] theorem exec_need_ok (failure : ε → Failure) (a : α) (p : Panel) :
    exec (need failure (.ok a)) p = (.ok a, p) := rfl

@[simp] theorem exec_need_error (failure : ε → Failure) (e : ε) (p : Panel) :
    exec (need failure (.error e) : Statements α) p = (.error (failure e), p) := rfl

namespace Statements

/-! ## §2 Operations in statements -/

/-- Asks the attached view for a refresh. -/
def request (scroll : Bool) : Statements Unit := modify fun p => p.requestRefresh scroll

/-- Takes in a batch: it is put in the store and then counted. -/
def receive (batch : List Message) : Statements Unit := do
  if batch.isEmpty then return
  modify fun p => { p with store := (p.store.extend batch).1 }
  modify fun p => { p with rules := p.rules.countUnread batch }
  request false

/-- Removes all messages. -/
def clear : Statements Unit := do
  modify fun p => { p with store := p.store.clear }
  request true

/-- Begins a new source: the messages are removed, and then nothing is unread. -/
def resetSource : Statements Unit := do
  modify fun p => { p with store := p.store.clear }
  modify fun p => { p with rules := p.rules.markRead }
  request true

/-- Changes how many messages are kept: the store first, which may refuse the number, and then the
setting. -/
def setMaximum (n : Int) : Statements Unit := do
  let p ← get
  let (store, _) ← need .capacity (p.store.resize n)
  modify fun p => { p with store }
  modify fun p => { p with maximum := n.toNat }
  request false

/-- Selects a rule. -/
def select (index : Int) : Statements Nat := do
  let p ← get
  modify fun q => { q with rules := (p.rules.select index).1 }
  request true
  return (p.rules.select index).2

/-- Writes the rules to where they are saved. -/
def save : Statements Unit := do
  let p ← get
  modify fun _ => p.save.1
  need .save p.save.2

/-- Adds a rule, and then saves the rules. -/
def add (r : Rule) : Statements Nat := do
  let p ← get
  modify fun q => { q with rules := (p.rules.add r).1 }
  save
  return (p.rules.add r).2

/-- Saves rules that were changed, and then asks for a refresh if something is so at the end. -/
def saveThen (asks : Panel → Bool) : Statements Bool := do
  save
  let q ← get
  if asks q then request true
  return true

/-- Removes a rule, and saves the rules if it did. A refresh is asked for if the removed rule was
selected at the beginning. -/
def remove (index : Int) : Statements Bool := do
  let p ← get
  modify fun q => { q with rules := (p.rules.remove index).1 }
  if (p.rules.remove index).2 then saveThen fun _ => index = p.rules.selected else return false

/-- Puts a rule in place of another, and saves the rules if it did. A refresh is asked for if that
rule is selected at the end. -/
def edit (index : Int) (r : Rule) : Statements Bool := do
  let p ← get
  modify fun q => { q with rules := (p.rules.replace index r).1 }
  if (p.rules.replace index r).2 then saveThen fun q => index = q.rules.selected else return false

/-- Puts a changed copy of a rule in its place: the copy is built before anything is changed. -/
def editCopy (index : Int) (change : Criteria → Criteria) (transient : Bool) : Statements Bool := do
  let p ← get
  match p.rules.get? index with
  | none => throw (.position ⟨⟩)
  | some r =>
    let copy ← need .rule (r.revise change transient)
    edit index copy

/-- The position of the session rule for an application, which is built and added if there is
none. -/
def sessionRule (app : Text) : Statements Nat := do
  let p ← get
  match p.rules.sessionRule? app with
  | some i => return i
  | none =>
    let r ← need .rule (Rule.build (sessionCriteria app) true)
    modify fun q => { q with rules := (p.rules.add r).1 }
    return (p.rules.add r).2

/-- Selects the session rule for an application. -/
def selectApp (app : Text) : Statements Nat := do
  let i ← sessionRule app
  select i

/-- Sets the live query: its rules are built first, then query, level and rules are set. -/
def setQuery (query : Text) (level : Level) : Statements Unit := do
  let live ← need .rule (Query.rules query level)
  modify fun p => { p with query }
  modify fun p => { p with level }
  modify fun p => { p with live }
  request true

/-- The statements of an operation. -/
def ofOp : Op → Statements Unit
  | .receive batch => receive batch
  | .clear => clear
  | .resetSource => resetSource
  | .setMaximum n => setMaximum n
  | .select index => discard (select index)
  | .add r => discard (add r)
  | .remove index => discard (remove index)
  | .edit index r => discard (edit index r)
  | .selectApp app => discard (selectApp app)
  | .setQuery query level => setQuery query level

end Statements

/-! ## §3 What the statements come to -/

/-- The outcome of an operation that gives no panel if it fails, with the panel that is left. -/
def orLeave (failure : ε → Failure) (p : Panel) : Except ε (Panel × α) → Except Failure α × Panel
  | .ok (q, a) => (.ok a, q)
  | .error e => (.error (failure e), p)

open Statements (ofOp)

theorem exec_receive (batch : List Message) (p : Panel) :
    exec (Statements.receive batch) p = (.ok (), p.receive batch) := by
  cases batch <;> rfl

theorem exec_clear (p : Panel) : exec Statements.clear p = (.ok (), p.clear) := rfl

theorem exec_resetSource (p : Panel) : exec Statements.resetSource p = (.ok (), p.resetSource) := rfl

theorem exec_select (index : Int) (p : Panel) :
    exec (Statements.select index) p = (.ok (p.select index).2, (p.select index).1) := rfl

/-- Saving leaves what it leaves, also if it fails. -/
theorem exec_save (p : Panel) : exec Statements.save p = (p.save.2.mapError .save, p.save.1) := by
  unfold Statements.save
  simp only [exec_bind, exec_get, exec_modify]
  cases p.save.2 with
  | ok _ => rfl
  | error _ => rfl

/-- The new store and the new setting are of the same number, which is checked before either is
set. -/
theorem exec_setMaximum (n : Int) (p : Panel) :
    exec (Statements.setMaximum n) p
      = orLeave .capacity p ((p.setMaximum n).map fun q => (q, ())) := by
  unfold Statements.setMaximum Panel.setMaximum
  simp only [exec_bind, exec_get]
  cases hresized : p.store.resize n with
  | error e => rfl
  | ok resized =>
    -- The store is as large as the number says, so it does not matter which of the two is noted.
    have hcapacity : resized.1.capacity = n.toNat := by
      unfold Store.resize at hresized
      obtain ⟨c, hc, rfl⟩ := map_eq_ok_iff.1 hresized
      obtain ⟨rfl, _⟩ := Store.capacityOf_eq_ok hc
      rfl
    show _ = (Except.ok (), requestRefresh { p with store := resized.1, maximum := _ } false)
    rw [hcapacity]
    rfl

theorem exec_setQuery (query : Text) (level : Level) (p : Panel) :
    exec (Statements.setQuery query level) p
      = orLeave .rule p ((p.setQuery query level).map fun q => (q, ())) := by
  unfold Statements.setQuery Panel.setQuery
  cases Query.rules query level with
  | error e => rfl
  | ok live => rfl

/-- The session rule is built before it is added, and selecting it cannot fail. -/
theorem exec_selectApp (app : Text) (p : Panel) :
    exec (Statements.selectApp app) p = orLeave .rule p (p.selectApp app) := by
  unfold Statements.selectApp Statements.sessionRule Panel.selectApp
  simp only [exec_bind, exec_get]
  cases p.rules.sessionRule? app with
  | some i => rfl
  | none =>
    cases Rule.build (sessionCriteria app) true with
    | error e => rfl
    | ok r => rfl

theorem exec_add (r : Rule) (p : Panel) :
    exec (Statements.add r) p = ((p.add r).2.mapError .save, (p.add r).1) := by
  unfold Statements.add
  simp only [exec_bind, exec_get, exec_modify, exec_save]
  have hadd : p.add r = ((save { p with rules := (p.rules.add r).1 }).1,
      (save { p with rules := (p.rules.add r).1 }).2.map fun _ => (p.rules.add r).2) := rfl
  rw [hadd]
  cases (save { p with rules := (p.rules.add r).1 }).2 with
  | ok _ => rfl
  | error _ => rfl

/-- Rules that were changed stay changed if the saving fails, and then no refresh is asked for. -/
theorem exec_saveThen (asks : Panel → Bool) (p : Panel) :
    exec (Statements.saveThen asks) p
      = ((p.save.1.refreshIf (asks p.save.1) p.save.2).2.mapError .save,
        (p.save.1.refreshIf (asks p.save.1) p.save.2).1) := by
  unfold Statements.saveThen
  simp only [exec_bind, exec_save]
  cases p.save.2 with
  | error e => rfl
  | ok _ =>
    simp only [Except.mapError, exec_get]
    cases asks p.save.1 with
    | false => rfl
    | true => rfl

theorem exec_remove (index : Int) (p : Panel) :
    exec (Statements.remove index) p = ((p.remove index).2.mapError .save, (p.remove index).1) := by
  unfold Statements.remove
  simp only [exec_bind, exec_get, exec_modify]
  rcases p.rules.remove_cases index with ⟨hrefused, _⟩ | ⟨_, _, _, _, hdone, _⟩
  · simp only [Panel.remove, hrefused]
    rfl
  · simp only [Panel.remove, hdone, if_true, exec_saveThen]

theorem exec_edit (index : Int) (r : Rule) (p : Panel) :
    exec (Statements.edit index r) p = ((p.edit index r).2.mapError .save, (p.edit index r).1) := by
  unfold Statements.edit
  simp only [exec_bind, exec_get, exec_modify]
  rcases p.rules.replace_cases index r with ⟨hrefused, _⟩ | ⟨_, _, _, _, hdone, _⟩
  · simp only [Panel.edit, hrefused]
    rfl
  · simp only [Panel.edit, hdone, if_true, exec_saveThen]

/-- What an answer is not needed for stays the same otherwise. -/
theorem exec_discard (x : Statements α) (p : Panel) :
    exec (discard x) p = ((exec x p).1.map fun _ => (), (exec x p).2) := by
  show exec (x >>= fun _ => pure ()) p = _
  rw [exec_bind]
  rcases exec x p with ⟨a | e, q⟩ <;> rfl

/-- The statements of an operation leave the panel that the operation gives, whether it fails or
not. -/
theorem exec_ofOp (op : Op) (p : Panel) : (exec (ofOp op) p).2 = p.step op := by
  cases op with
  | receive batch => exact congrArg Prod.snd (exec_receive batch p)
  | clear => exact congrArg Prod.snd (exec_clear p)
  | resetSource => exact congrArg Prod.snd (exec_resetSource p)
  | select index =>
    show (exec (discard (Statements.select index)) p).2 = (p.select index).1
    rw [exec_discard, exec_select]
  -- These fail before they change anything.
  | setMaximum n =>
    show (exec (Statements.setMaximum n) p).2 = p.orKeep (p.setMaximum n)
    rw [exec_setMaximum]
    cases p.setMaximum n <;> rfl
  | setQuery query level =>
    show (exec (Statements.setQuery query level) p).2 = p.orKeep (p.setQuery query level)
    rw [exec_setQuery]
    cases p.setQuery query level <;> rfl
  | add r =>
    show (exec (discard (Statements.add r)) p).2 = (p.add r).1
    rw [exec_discard, exec_add]
  | remove index =>
    show (exec (discard (Statements.remove index)) p).2 = (p.remove index).1
    rw [exec_discard, exec_remove]
  | edit index r =>
    show (exec (discard (Statements.edit index r)) p).2 = (p.edit index r).1
    rw [exec_discard, exec_edit]
  | selectApp app =>
    show (exec (discard (Statements.selectApp app)) p).2 = p.orKeep ((p.selectApp app).map (·.1))
    rw [exec_discard, exec_selectApp]
    cases p.selectApp app <;> rfl

/-! ## §4 Failures -/

/-- An operation whose outcome is its panel or a failure leaves the panel if it fails. -/
theorem orLeave_eq_error_iff {failure : ε → Failure} {p q : Panel} {x : Except ε (Panel × α)}
    {e : Failure} :
    orLeave failure p x = (.error e, q) ↔ q = p ∧ ∃ why, x = .error why ∧ e = failure why := by
  cases x with
  | ok _ => simp [orLeave]
  | error why =>
    simp only [orLeave, Prod.mk.injEq, Except.error.injEq]
    constructor
    · rintro ⟨rfl, rfl⟩
      exact ⟨rfl, why, rfl, rfl⟩
    · rintro ⟨rfl, _, rfl, rfl⟩
      exact ⟨rfl, rfl⟩

/-- Putting a changed copy of a rule in its place fails for the copy exactly if the copy cannot be
built, and this is found out before anything is changed. -/
theorem exec_editCopy_eq_rule_iff {p q : Panel} {index : Int} {change : Criteria → Criteria}
    {transient : Bool} {e : RuleError} :
    exec (Statements.editCopy index change transient) p = (.error (.rule e), q) ↔
      q = p ∧ ∃ r, p.rules.get? index = some r ∧ r.revise change transient = .error e := by
  unfold Statements.editCopy
  simp only [exec_bind, exec_get]
  cases p.rules.get? index with
  | none => simp
  | some r =>
    cases hcopy : r.revise change transient with
    | error why => simp [exec_bind, hcopy, and_comm, eq_comm]
    | ok copy =>
      -- With the copy built, the only failure left is that of saving.
      simp only [exec_bind, exec_need_ok, exec_edit, hcopy]
      cases (p.edit index copy).2 <;> simp [Except.mapError, hcopy]

/-! ## §5 The number of messages to keep -/

theorem store_refreshIf (p : Panel) (changed : Bool) (saved : Except RuleFile.SaveFault Unit) :
    (p.refreshIf changed saved).1.store = p.store ∧
      (p.refreshIf changed saved).1.maximum = p.maximum := by
  cases saved with
  | error _ => exact ⟨rfl, rfl⟩
  | ok _ => cases changed <;> exact ⟨rfl, rfl⟩

/-- Changing rules leaves the messages alone, and how many are kept. -/
theorem store_of_saved {p : Panel} {rules : RuleSet} {changed : Bool}
    {after : Panel × Except RuleFile.SaveFault Bool} (hafter : after = (p, .ok false) ∨
      after = (save { p with rules }).1.refreshIf changed (save { p with rules }).2) :
    after.1.store = p.store ∧ after.1.maximum = p.maximum := by
  rcases hafter with rfl | rfl
  · exact ⟨rfl, rfl⟩
  · exact store_refreshIf _ changed _

/-- The number of messages to keep stays the capacity of the store. -/
theorem maximum_step {p : Panel} (h : p.maximum = p.store.capacity) (op : Op) :
    (p.step op).maximum = (p.step op).store.capacity := by
  cases op with
  | receive batch =>
    cases batch with
    | nil => exact h
    | cons m batch => exact h
  | clear => exact h
  | resetSource => exact h
  | select index => exact h
  | add r => exact h
  -- Only here the capacity changes, and the number with it.
  | setMaximum n =>
    rcases p.step_setMaximum_cases n with hstep | ⟨store, hstep⟩
    · rw [hstep]
      exact h
    · rw [hstep]
      rfl
  | setQuery query level =>
    rcases p.step_setQuery_cases query level with hstep | ⟨live, hstep⟩
    · rw [hstep]
      exact h
    · rw [hstep]
      exact h
  | selectApp app =>
    rcases step_selectApp_cases p app with hstep | ⟨index, hstep⟩ | ⟨r, _, hstep⟩
    · rw [hstep]
      exact h
    · rw [hstep]
      exact h
    · rw [hstep]
      exact h
  | remove index =>
    obtain ⟨hstore, hmaximum⟩ := store_of_saved (p.remove_eq index)
    show (p.remove index).1.maximum = (p.remove index).1.store.capacity
    rw [hstore, hmaximum, h]
  | edit index r =>
    obtain ⟨hstore, hmaximum⟩ := store_of_saved (p.edit_eq index r)
    show (p.edit index r).1.maximum = (p.edit index r).1.store.capacity
    rw [hstore, hmaximum, h]

/-- A panel opens with a store of the capacity that is set. -/
theorem maximum_of_opens {p : Panel} (h : Opens p) : p.maximum = p.store.capacity := by
  induction h with
  | start hstart =>
    obtain ⟨_, _, _, _, _, _, _, rfl⟩ := eq_of_start hstart
    rfl
  | attach _ ih => exact ih

/-- So it does in every run, whatever is done to the view in between. -/
theorem maximum_actions {p : Panel} (h : p.maximum = p.store.capacity) (as : List Action) :
    (p.actions as).maximum = (p.actions as).store.capacity := by
  induction as using List.reverseRecOn with
  | nil => exact h
  | append_singleton as a ih =>
    rw [actions_concat]
    cases a with
    | perform op => exact maximum_step ih op
    | attach => exact ih
    | refresh r => exact ih

/-! ## §6 Operations that check something -/

/-- After any run of operations, failed ones included, and whatever was done to the view in between:
changing the number of messages to keep, setting the live query and selecting the session rule of an
application fail exactly if their check does, and then leave the whole panel as it was; so does a
changed copy of a rule that cannot be built. The number of messages to keep is the capacity of the
store, and what the statements of any operation leave is the panel that the operation gives. -/
theorem unchanged_of_failure {p₀ : Panel} (h : Opens p₀) (as : List Action) :
    (∀ n e q, exec (Statements.setMaximum n) (p₀.actions as) = (.error e, q) ↔
      q = p₀.actions as ∧ ∃ why, (p₀.actions as).setMaximum n = .error why ∧ e = .capacity why) ∧
    (∀ query level e q, exec (Statements.setQuery query level) (p₀.actions as) = (.error e, q) ↔
      q = p₀.actions as ∧ ∃ why, (p₀.actions as).setQuery query level = .error why ∧ e = .rule why) ∧
    (∀ app e q, exec (Statements.selectApp app) (p₀.actions as) = (.error e, q) ↔
      q = p₀.actions as ∧ ∃ why, (p₀.actions as).selectApp app = .error why ∧ e = .rule why) ∧
    (∀ index change transient e q,
      exec (Statements.editCopy index change transient) (p₀.actions as) = (.error (.rule e), q) ↔
      q = p₀.actions as ∧
        ∃ r, (p₀.actions as).rules.get? index = some r ∧ r.revise change transient = .error e) ∧
    (p₀.actions as).maximum = (p₀.actions as).store.capacity ∧
    ∀ op, (exec (ofOp op) (p₀.actions as)).2 = (p₀.actions as).step op := by
  refine ⟨?_, ?_, ?_, ?_, maximum_actions (maximum_of_opens h) as, fun op => exec_ofOp op _⟩
  · intro n e q
    rw [exec_setMaximum, orLeave_eq_error_iff]
    simp only [map_eq_error_iff]
  · intro query level e q
    rw [exec_setQuery, orLeave_eq_error_iff]
    simp only [map_eq_error_iff]
  · intro app e q
    rw [exec_selectApp, orLeave_eq_error_iff]
  · intro index change transient e q
    exact exec_editCopy_eq_rule_iff

/-- A panel that has refused to keep no messages refuses the next numbers and patterns as well, and
still keeps two messages. -/
theorem unchanged_of_failure_attached :
    ∃ (p₀ : Panel) (m : Message) (as : List Action) (e : RuleError),
      (Panel.start 2 (.memory "") .empty).result = .ok p₀ ∧
      as = [.attach, .perform (.receive [m, m, m]), .perform (.setMaximum 0)] ∧
      exec (Statements.setMaximum (-1)) (p₀.actions as)
        = (.error (.capacity (.tooSmall (-1))), p₀.actions as) ∧
      exec (Statements.selectApp "(") (p₀.actions as) = (.error (.rule e), p₀.actions as) ∧
      (p₀.actions as).maximum = 2 ∧ (p₀.actions as).store.capacity = 2 := by
  let p₀ : Panel :=
    ⟨.empty 2 (by decide), 2, .ofRules [], "", .verbose, [openRule], .memory "", .empty, none, []⟩
  let m : Message := ⟨"", 1, "", "", .info, "", none⟩
  let as : List Action := [.attach, .perform (.receive [m, m, m]), .perform (.setMaximum 0)]
  have hstart : (Panel.start 2 (.memory "") .empty).result = .ok p₀ := rfl
  obtain ⟨hmaximum, _, hsession, _, hkept, _⟩ := unchanged_of_failure (.start hstart) as
  -- An opening bracket alone is no pattern.
  obtain ⟨e, hbracket⟩ : ∃ e, (p₀.actions as).selectApp "(" = .error e := by
    cases hselect : (p₀.actions as).selectApp "(" with
    | error e => exact ⟨e, rfl⟩
    | ok selected =>
      have hnone : ((p₀.actions as).selectApp "(").toOption.isSome = false := by decide +kernel
      rw [hselect] at hnone
      cases hnone
  have hsmall : (p₀.actions as).setMaximum (-1) = .error (.tooSmall (-1)) := rfl
  have htwo : (p₀.actions as).maximum = 2 := rfl
  exact ⟨p₀, m, as, e, hstart, rfl, (hmaximum _ _ _).2 ⟨rfl, _, hsmall, rfl⟩,
    (hsession _ _ _).2 ⟨rfl, e, hbracket, rfl⟩, htwo, hkept.symm.trans htwo⟩

end LogViewer.Panel
