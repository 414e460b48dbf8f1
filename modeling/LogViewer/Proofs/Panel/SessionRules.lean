import LogViewer.Proofs.Panel.Saved
import LogViewer.Proofs.Rules.Selection

/-!
# One session rule for an application

The session rule for an application is looked up by going through the rules, and is added if it is
not found. Everywhere else only rules that last are put in, and so the applications of the session
rules stay distinct: an operation leaves some of them, or adds one that was not there. Hence the
rule that is found is the only one, wherever other changes have moved it.

## Main definitions

- `Rule.sessionApp?`, `RuleSet.sessionApps`: the application of a session rule, and all of them
- `Panel.Event`, `Panel.events`: what happens to a panel, and runs of it
- `Panel.Op.Lasting`, `Panel.Op.Takes`: operations that put in no session rule, and those that take
  the rule at a position
- `Panel.SelectsSession`: what selecting the session rule of an application comes to
- `Panel.Spares`: runs that do not take the session rule of an application

## Main statements

- `RuleSet.filterMap_perform`: what one operation leaves of anything that is read off session rules
- `RuleSet.sessionApps_perform`, `Panel.sessionApps_step`: the session rules after one operation
- `Panel.nodup_events`: the session rules after a run
- `Panel.selectsSession`: selecting the session rule of an application
- `Panel.sessionRule_run`: there is one session rule for an application
-/

namespace LogViewer

/-! ## §1 Session rules -/

namespace Rule

/-- The application whose session rule it is, if it is a session rule. -/
def sessionApp? (r : Rule) : Option Text :=
  if r.transient then some r.criteria.app else none

theorem sessionApp?_eq_some_iff {r : Rule} {app : Text} :
    r.sessionApp? = some app ↔ (r.transient && r.criteria.app == app) = true := by
  unfold sessionApp?
  cases r.transient <;> simp

/-- A rule that lasts is no session rule. -/
theorem sessionApp?_of_lasting {r : Rule} (h : r.transient = false) : r.sessionApp? = none := by
  unfold sessionApp?
  rw [h]
  rfl

@[simp] theorem sessionApp?_markRead (r : Rule) : r.markRead.sessionApp? = r.sessionApp? := rfl

/-- Whose session rule it is does not depend on the count. -/
theorem Same.sessionApp? {a b : Rule} (h : a.Same b) : a.sessionApp? = b.sessionApp? := by
  have hread : a.markRead = b.markRead := h
  rw [← sessionApp?_markRead a, hread, sessionApp?_markRead]

/-- The session rule that is built for an application is one of that application. -/
theorem sessionApp?_of_build {app : Text} {r : Rule}
    (h : build (Panel.sessionCriteria app) true = .ok r) : r.sessionApp? = some app := by
  unfold sessionApp?
  rw [transient_of_build h, criteria_of_build h]
  rfl

end Rule

namespace RuleSet

/-- The applications of the session rules, in the order of these. -/
def sessionApps (s : RuleSet) : List Text := s.rules.filterMap Rule.sessionApp?

theorem mem_sessionApps_iff {s : RuleSet} {app : Text} :
    app ∈ s.sessionApps ↔ ∃ r ∈ s.rules, r.sessionApp? = some app :=
  List.mem_filterMap

theorem mem_sessionApps {s : RuleSet} {app : Text} {i : Nat} {r : Rule} (hr : s.rules[i]? = some r)
    (happ : r.sessionApp? = some app) : app ∈ s.sessionApps :=
  mem_sessionApps_iff.2 ⟨r, List.mem_of_getElem? hr, happ⟩

/-- If the applications of the session rules are distinct, then each has its rule at one position.
-/
theorem eq_of_nodup {s : RuleSet} (h : s.sessionApps.Nodup) {app : Text} {i j : Nat} {r r' : Rule}
    (hr : s.rules[i]? = some r) (hr' : s.rules[j]? = some r') (happ : r.sessionApp? = some app)
    (happ' : r'.sessionApp? = some app) : i = j := by
  obtain ⟨hi, rfl⟩ := List.getElem?_eq_some_iff.1 hr
  obtain ⟨hj, rfl⟩ := List.getElem?_eq_some_iff.1 hr'
  have hapart := List.pairwise_iff_getElem.1 (List.pairwise_filterMap.1 h)
  rcases Nat.lt_trichotomy i j with hlt | heq | hgt
  · exact absurd rfl (hapart i j hi hj hlt app happ app happ')
  · exact heq
  · exact absurd rfl (hapart j i hj hi hgt app happ' app happ)

/-! ## §2 Looking a session rule up -/

/-- What is found is a session rule of the application. -/
theorem sessionRule?_eq_some {s : RuleSet} {app : Text} {i : Nat}
    (h : s.sessionRule? app = some i) : ∃ r, s.rules[i]? = some r ∧ r.sessionApp? = some app := by
  obtain ⟨hi, hfound, -⟩ := List.findIdx?_eq_some_iff_getElem.1 h
  exact ⟨s.rules[i], List.getElem?_eq_getElem hi, Rule.sessionApp?_eq_some_iff.2 hfound⟩

/-- Nothing is found exactly if there is no session rule of the application. -/
theorem sessionRule?_eq_none_iff {s : RuleSet} {app : Text} :
    s.sessionRule? app = none ↔ app ∉ s.sessionApps := by
  unfold sessionRule?
  rw [List.findIdx?_eq_none_iff, mem_sessionApps_iff]
  simp only [not_exists, not_and, Rule.sessionApp?_eq_some_iff, Bool.not_eq_true]

/-! ## §3 One operation on the rules -/

/-- An operation puts in no session rule. -/
def Op.Lasting : Op → Prop
  | .add r | .replace _ r => r.transient = false
  | _ => True

section

variable {β : Type} {f : Rule → Option β}

/-- What is read off some rules depends on each of them by itself. -/
theorem filterMap_congr {rules rules' : List Rule} (h : rules.map f = rules'.map f) :
    rules.filterMap f = rules'.filterMap f := by
  simpa only [List.filterMap_map, Function.id_comp] using congrArg (List.filterMap id) h

/-- Where nothing is read off a rule that lasts, putting one in drops what was read off the rule
that it replaces. -/
theorem filterMap_set (hlasting : ∀ r : Rule, r.transient = false → f r = none) {rules : List Rule}
    {k : Nat} (hk : k < rules.length) {r : Rule} (h : r.transient = false) :
    (rules.set k r).filterMap f = (rules.eraseIdx k).filterMap f := by
  rw [List.set_eq_take_append_cons_drop, if_pos hk, List.eraseIdx_eq_take_drop_succ,
    List.filterMap_append, List.filterMap_append, List.filterMap_cons_none (hlasting r h)]

/-- Reading a rule leaves alone what does not depend on the counts. -/
theorem filterMap_modify (hread : ∀ r : Rule, f r.markRead = f r) (rules : List Rule) (i : Nat) :
    (rules.modify i Rule.markRead).filterMap f = rules.filterMap f :=
  filterMap_congr (map_modify f hread rules i)

/-- An operation that puts in no session rule leaves some of what is read off those that there are.
-/
theorem filterMap_perform (hread : ∀ r : Rule, f r.markRead = f r)
    (hcount : ∀ (r : Rule) batch, f (r.countUnread batch) = f r)
    (hlasting : ∀ r : Rule, r.transient = false → f r = none) {s : RuleSet} {op : Op} (h : op.Lasting) :
    ((s.perform op).rules.filterMap f).Sublist (s.rules.filterMap f) := by
  -- It is enough to compare what is read off the rules, or to see which rule is taken out.
  have hequal : ∀ {rules : List Rule}, rules.filterMap f = s.rules.filterMap f →
      (rules.filterMap f).Sublist (s.rules.filterMap f) := fun h => h ▸ List.Sublist.refl _
  have hkept : ∀ {t : RuleSet}, t.rules.map f = s.rules.map f →
      (t.rules.filterMap f).Sublist (s.rules.filterMap f) := fun h => hequal (filterMap_congr h)
  have herased : ∀ k, ((s.rules.eraseIdx k).filterMap f).Sublist (s.rules.filterMap f) :=
    fun k => (s.rules.eraseIdx_sublist k).filterMap _
  cases op with
  | select index => exact hkept (map_select f hread s index)
  | add r =>
    -- Nothing is read off a rule that is saved.
    have hadded : (s.rules ++ [r]).filterMap f = s.rules.filterMap f := by
      rw [List.filterMap_append, List.filterMap_cons_none (hlasting r h), List.filterMap_nil,
        List.append_nil]
    exact hequal hadded
  | remove index =>
    rcases s.remove_cases index with ⟨hsame, _⟩ | ⟨k, _, _, _, _, _, hrules⟩
    · exact hkept (congrArg (fun result => result.1.rules.map f) hsame)
    · show ((s.remove index).1.rules.filterMap f).Sublist _
      rw [hrules]
      split
      · rw [filterMap_modify hread]
        exact herased k
      · exact herased k
  | replace index r =>
    rcases s.replace_cases index r with ⟨hsame, _⟩ | ⟨k, _, _, hk, _, _, hrules⟩
    · exact hkept (congrArg (fun result => result.1.rules.map f) hsame)
    · show ((s.replace index r).1.rules.filterMap f).Sublist _
      rw [hrules, filterMap_set hlasting hk h]
      exact herased k
  | countUnread batch => exact hkept (map_countUnread f hcount s batch)
  | markRead => exact hkept (map_markRead f hread s)

end

/-- An operation that puts in no session rule leaves some of those that there are. -/
theorem sessionApps_perform {s : RuleSet} {op : Op} (h : op.Lasting) :
    (s.perform op).sessionApps.Sublist s.sessionApps :=
  filterMap_perform (fun _ => rfl) (fun _ _ => rfl) (fun _ => Rule.sessionApp?_of_lasting) h

/-- A session rule stays unless an operation takes it. -/
theorem mem_sessionApps_perform {s : RuleSet} {app : Text} {i : Nat} {r : Rule}
    (hr : s.rules[i]? = some r) (happ : r.sessionApp? = some app) {op : Op} (h : ¬ op.Takes i) :
    app ∈ (s.perform op).sessionApps := by
  obtain ⟨r', hr', hsame⟩ := exists_same_perform hr h
  exact mem_sessionApps hr' (hsame.sessionApp?.trans happ)

end RuleSet

namespace Panel

/-! ## §4 One operation on the panel -/

/-- The rules that are put in from outside are no session rules. -/
def Op.Lasting : Op → Prop
  | .add r | .edit _ r => r.transient = false
  | _ => True

/-- An operation removes the rule at a position, or puts another in its place. -/
def Op.Takes (i : Nat) : Op → Prop
  | .remove index | .edit index _ => index = i
  | _ => False

/-- Apart from the one that looks up a session rule, an operation leaves the rules alone or is an
operation on them. -/
theorem rules_step (p : Panel) {op : Op} (h : ∀ app, op ≠ .selectApp app) :
    (p.step op).rules = p.rules ∨
    ∃ o : RuleSet.Op, (p.step op).rules = p.rules.perform o ∧ (op.Lasting → o.Lasting) ∧
      ∀ i, o.Takes i → op.Takes i := by
  cases op with
  | receive batch => exact .inr ⟨.countUnread batch, rules_receive p batch, id, fun _ => id⟩
  | clear => exact .inl rfl
  | resetSource => exact .inr ⟨.markRead, rfl, id, fun _ => id⟩
  | setMaximum n => exact .inl (rules_setMaximum p n)
  | select index => exact .inr ⟨.select index, rfl, id, fun _ => id⟩
  | add r => exact .inr ⟨.add r, rfl, id, fun _ => id⟩
  | remove index => exact .inr ⟨.remove index, rules_remove p index, id, fun _ h => h.1⟩
  | edit index r => exact .inr ⟨.replace index r, rules_edit p index r, id, fun _ h => h.1⟩
  | selectApp app => exact absurd rfl (h app)
  | setQuery query level => exact .inl (rules_setQuery p query level)

/-- Selecting the session rule of an application reads the one that is found, or puts a new one
behind all others. Nothing is saved. -/
theorem rules_of_selectApp {p q : Panel} {app : Text} {i : Nat}
    (h : p.selectApp app = .ok (q, i)) :
    q.rules.selected = i ∧
    (q.storage = p.storage ∧ q.disk = p.disk ∧ q.exportRules = p.exportRules) ∧
    ((p.rules.sessionRule? app = some i ∧ q.rules.rules = p.rules.rules.modify i Rule.markRead) ∨
    (p.rules.sessionRule? app = none ∧ i = p.rules.rules.length ∧
      ∃ r, Rule.build (sessionCriteria app) true = .ok r ∧ q.rules.rules = p.rules.rules ++ [r])) := by
  rcases selectApp_cases h with ⟨k, hfound, hselect⟩ | ⟨r, hnone, hbuild, hselect⟩
  · obtain ⟨r, hr, _⟩ := RuleSet.sessionRule?_eq_some hfound
    have hk : k < p.rules.rules.length := (List.getElem?_eq_some_iff.1 hr).1
    have hexport := p.rules.exportRules_select k
    unfold select at hselect
    rw [RuleSet.select_of_lt hk] at hselect hexport
    cases hselect
    exact ⟨rfl, ⟨rfl, rfl, hexport⟩, .inl ⟨hfound, rfl⟩⟩
  · -- The new rule is selected, but there is nothing to read.
    have hread : (p.rules.rules ++ [r]).modify p.rules.rules.length Rule.markRead
        = p.rules.rules ++ [r] := RuleSet.modify_concat _ (Rule.unread_of_build hbuild)
    have hk : p.rules.rules.length < (p.rules.add r).1.rules.length := by simp
    have hexport := ((p.rules.add r).1.exportRules_select p.rules.rules.length).trans
      (RuleSet.exportRules_add (Rule.transient_of_build hbuild))
    unfold select at hselect
    dsimp only at hselect
    rw [RuleSet.select_of_lt hk] at hselect hexport
    cases hselect
    exact ⟨rfl, ⟨rfl, rfl, hexport⟩, .inr ⟨hnone, rfl, r, hbuild, hread⟩⟩

/-- Looking up a session rule adds that of the application, if there was none. -/
theorem sessionApps_selectApp {p q : Panel} {app : Text} {i : Nat}
    (h : p.selectApp app = .ok (q, i)) :
    app ∈ p.rules.sessionApps ∧ q.rules.sessionApps = p.rules.sessionApps ∨
    app ∉ p.rules.sessionApps ∧ q.rules.sessionApps = p.rules.sessionApps ++ [app] := by
  obtain ⟨-, -, ⟨hfound, hrules⟩ | ⟨hnone, -, r, hbuild, hrules⟩⟩ := rules_of_selectApp h
  · obtain ⟨r, hr, happ⟩ := RuleSet.sessionRule?_eq_some hfound
    refine .inl ⟨RuleSet.mem_sessionApps hr happ, ?_⟩
    unfold RuleSet.sessionApps
    rw [hrules, RuleSet.filterMap_modify Rule.sessionApp?_markRead]
  · refine .inr ⟨RuleSet.sessionRule?_eq_none_iff.1 hnone, ?_⟩
    unfold RuleSet.sessionApps
    rw [hrules, List.filterMap_append, List.filterMap_cons_some (Rule.sessionApp?_of_build hbuild),
      List.filterMap_nil]

/-- An operation leaves some of the session rules, or it adds that of an application which had
none. -/
theorem sessionApps_step {p : Panel} {op : Op} (h : op.Lasting) :
    (p.step op).rules.sessionApps.Sublist p.rules.sessionApps ∨
    ∃ app, app ∉ p.rules.sessionApps ∧
      (p.step op).rules.sessionApps = p.rules.sessionApps ++ [app] := by
  by_cases hlookup : ∃ app, op = .selectApp app
  · obtain ⟨app, rfl⟩ := hlookup
    rcases p.step_selectApp app with hstep | ⟨q, i, hselect, hstep⟩
    · rw [hstep]
      exact .inl (List.Sublist.refl _)
    · rw [hstep]
      rcases sessionApps_selectApp hselect with ⟨_, hsame⟩ | ⟨hnone, hadded⟩
      · rw [hsame]
        exact .inl (List.Sublist.refl _)
      · exact .inr ⟨app, hnone, hadded⟩
  · rcases p.rules_step (not_exists.1 hlookup) with hsame | ⟨o, hrules, hlasting, _⟩
    · rw [hsame]
      exact .inl (List.Sublist.refl _)
    · rw [hrules]
      exact .inl (RuleSet.sessionApps_perform (hlasting h))

/-- The applications of the session rules stay distinct. -/
theorem nodup_step {p : Panel} (hnodup : p.rules.sessionApps.Nodup) {op : Op} (h : op.Lasting) :
    (p.step op).rules.sessionApps.Nodup := by
  rcases sessionApps_step h with hsome | ⟨app, hnone, hadded⟩
  · exact hsome.nodup hnodup
  · rw [hadded, List.nodup_append]
    refine ⟨hnodup, List.pairwise_singleton _ _, ?_⟩
    intro app' hmem app'' hnew hsame
    rw [List.mem_singleton.1 hnew] at hsame
    exact hnone (hsame ▸ hmem)

/-- An operation takes the session rule of an application, or leaves one. -/
theorem mem_sessionApps_step {p : Panel} {app : Text} {i : Nat} {r : Rule}
    (hr : p.rules.rules[i]? = some r) (happ : r.sessionApp? = some app) {op : Op}
    (h : ¬ op.Takes i) : app ∈ (p.step op).rules.sessionApps := by
  have hmem := RuleSet.mem_sessionApps hr happ
  by_cases hlookup : ∃ app, op = .selectApp app
  · obtain ⟨app', rfl⟩ := hlookup
    rcases p.step_selectApp app' with hstep | ⟨q, i, hselect, hstep⟩
    · rwa [hstep]
    · rw [hstep]
      rcases sessionApps_selectApp hselect with ⟨_, hsame⟩ | ⟨_, hadded⟩
      · rwa [hsame]
      · rw [hadded]
        exact List.mem_append_left _ hmem
  · rcases p.rules_step (not_exists.1 hlookup) with hsame | ⟨o, hrules, _, htakes⟩
    · rwa [hsame]
    · rw [hrules]
      exact RuleSet.mem_sessionApps_perform hr happ fun ho => h (htakes i ho)

/-! ## §5 Whole runs -/

/-- What happens to a panel: an action, or a change of the disk, as when messages are written to a
file or another program does something to the files. -/
inductive Event where
  | act (a : Action)
  | disk (d : Disk)

/-- The rules that an event puts in from outside are no session rules. -/
def Event.Lasting : Event → Prop
  | .act (.perform op) => op.Lasting
  | _ => True

/-- An event removes the rule at a position, or puts another in its place. -/
def Event.Takes (i : Nat) : Event → Prop
  | .act (.perform op) => op.Takes i
  | _ => False

/-- The panel after an event. -/
def meet (p : Panel) : Event → Panel
  | .act a => p.act a
  | .disk disk => { p with disk }

/-- The panel after some events. -/
def events (p : Panel) (es : List Event) : Panel := es.foldl meet p

/-- No event of a run takes the session rule of an application. -/
def Spares (p : Panel) (app : Text) : List Event → Prop
  | [] => True
  | e :: es =>
    (∀ i r, p.rules.rules[i]? = some r → r.sessionApp? = some app → ¬ e.Takes i) ∧
      (p.meet e).Spares app es

/-- A panel begins with no session rules. -/
theorem sessionApps_of_opens {p : Panel} (h : Opens p) : p.rules.sessionApps = [] := by
  unfold RuleSet.sessionApps
  rw [List.filterMap_eq_nil_iff]
  intro r hr
  obtain ⟨c, hbuild⟩ := build_of_opens h r hr
  exact Rule.sessionApp?_of_lasting (Rule.transient_of_build hbuild)

/-- What every operation keeps of the rules is kept by a run in which the rules that are put in are
no session rules. -/
theorem rules_events {P : RuleSet → Prop}
    (keeps : ∀ (p : Panel) (op : Op), op.Lasting → P p.rules → P (p.step op).rules)
    {p : Panel} (hp : P p.rules) {es : List Event} (h : ∀ e ∈ es, e.Lasting) :
    P (p.events es).rules := by
  induction es generalizing p with
  | nil => exact hp
  | cons e es ih =>
    have hstep : P (p.meet e).rules := by
      match e, h e (List.mem_cons_self ..) with
      | .act (.perform op), hop => exact keeps p op hop hp
      | .act .attach, _ => exact hp
      | .act (.refresh _), _ => exact hp
      | .disk _, _ => exact hp
    exact ih hstep fun e he => h e (List.mem_cons_of_mem _ he)

/-- The applications of the session rules stay distinct in a run. -/
theorem nodup_events {p : Panel} (hnodup : p.rules.sessionApps.Nodup) {es : List Event}
    (h : ∀ e ∈ es, e.Lasting) : (p.events es).rules.sessionApps.Nodup :=
  rules_events (P := fun s => s.sessionApps.Nodup)
    (fun _ _ hop hbefore => nodup_step hbefore hop) hnodup h

/-- The session rule of an application stays until an event takes it. -/
theorem mem_sessionApps_events {p : Panel} {app : Text} (happ : app ∈ p.rules.sessionApps)
    {es : List Event} (h : p.Spares app es) : app ∈ (p.events es).rules.sessionApps := by
  induction es generalizing p with
  | nil => exact happ
  | cons e es ih =>
    refine ih ?_ h.2
    match e, h.1 with
    | .act (.perform op), hspared =>
      obtain ⟨r, hmem, hr⟩ := RuleSet.mem_sessionApps_iff.1 happ
      obtain ⟨i, hi⟩ := List.mem_iff_getElem?.1 hmem
      exact mem_sessionApps_step hi hr (hspared i r hi hr)
    | .act .attach, _ => exact happ
    | .act (.refresh _), _ => exact happ
    | .disk _, _ => exact happ

/-! ## §6 Selecting a session rule -/

/-- A session rule can be selected if there is one or it can be built. -/
theorem exists_selectApp_iff {p : Panel} {app : Text} :
    (∃ q i, p.selectApp app = .ok (q, i)) ↔
      app ∈ p.rules.sessionApps ∨ ∃ r, Rule.build (sessionCriteria app) true = .ok r := by
  constructor
  · rintro ⟨q, i, h⟩
    rcases rules_of_selectApp h with ⟨-, -, ⟨hfound, -⟩ | ⟨-, -, r, hbuild, -⟩⟩
    · obtain ⟨r, hr, happ⟩ := RuleSet.sessionRule?_eq_some hfound
      exact .inl (RuleSet.mem_sessionApps hr happ)
    · exact .inr ⟨r, hbuild⟩
  · intro h
    unfold selectApp
    cases hfound : p.rules.sessionRule? app with
    | some i => exact ⟨_, _, rfl⟩
    | none =>
      obtain ⟨r, hbuild⟩ := h.resolve_left (RuleSet.sessionRule?_eq_none_iff.1 hfound)
      simp only [hbuild]
      exact ⟨_, _, rfl⟩

/-- What selecting the session rule of an application comes to. -/
structure SelectsSession (p : Panel) (app : Text) (q : Panel) (i : Nat) : Prop where
  selected : q.rules.selected = i
  /-- The selected rule is a session rule of the application and has nothing unread. -/
  session : ∃ r, q.rules.rules[i]? = some r ∧ r.sessionApp? = some app ∧ r.unread = 0
  /-- It is the only one. -/
  only : ∀ j r, q.rules.rules[j]? = some r → r.sessionApp? = some app → j = i
  /-- All other rules are as they were, with their counts. -/
  others : ∀ j, j ≠ i → q.rules.rules[j]? = p.rules.rules[j]?
  /-- A session rule that was there is used. -/
  reused : app ∈ p.rules.sessionApps → q.rules.rules = p.rules.rules.modify i Rule.markRead
  /-- If there was none, a new one stands behind all other rules. -/
  appended : app ∉ p.rules.sessionApps → i = p.rules.size ∧
    ∃ r, Rule.build (sessionCriteria app) true = .ok r ∧ q.rules.rules = p.rules.rules ++ [r]
  /-- Neither what is saved nor the text of what is to be saved changes. -/
  saved : q.storage = p.storage ∧ q.disk = p.disk ∧ q.exportRules = p.exportRules

/-- The rule that is selected is a session rule of the application and has nothing unread. -/
theorem exists_session_of_selectApp {p q : Panel} {app : Text} {i : Nat}
    (h : p.selectApp app = .ok (q, i)) :
    ∃ r, q.rules.rules[i]? = some r ∧ r.sessionApp? = some app ∧ r.unread = 0 := by
  obtain ⟨-, -, ⟨hfound, hrules⟩ | ⟨-, rfl, r, hbuild, hrules⟩⟩ := rules_of_selectApp h
  · obtain ⟨r, hr, happ⟩ := RuleSet.sessionRule?_eq_some hfound
    refine ⟨r.markRead, ?_, happ, rfl⟩
    rw [hrules, List.getElem?_modify_eq, hr]
    rfl
  · refine ⟨r, ?_, Rule.sessionApp?_of_build hbuild, Rule.unread_of_build hbuild⟩
    rw [hrules, List.getElem?_concat_length]

/-- If no application has two session rules, then the one that is selected is the only one. -/
theorem selectsSession {p q : Panel} (hnodup : p.rules.sessionApps.Nodup) {app : Text} {i : Nat}
    (h : p.selectApp app = .ok (q, i)) : SelectsSession p app q i := by
  have hafter : q.rules.sessionApps.Nodup := by
    rw [← step_of_selectApp h]
    exact nodup_step hnodup trivial
  obtain ⟨hselected, hsaved, hcases⟩ := rules_of_selectApp h
  have hsession := exists_session_of_selectApp h
  refine ⟨hselected, hsession, ?_, ?_, ?_, ?_, hsaved⟩
  · intro j r' hr' happ'
    obtain ⟨r, hr, happ, _⟩ := hsession
    exact RuleSet.eq_of_nodup hafter hr' hr happ' happ
  · intro j hj
    -- Only one position is touched: the one that is read, or the new one behind all others.
    rcases hcases with ⟨_, hrules⟩ | ⟨_, rfl, r, _, hrules⟩
    · rw [hrules, List.getElem?_modify_ne _ _ hj.symm]
    · rw [hrules]
      rcases Nat.lt_or_gt_of_ne hj with hlt | hgt
      · rw [List.getElem?_append_left hlt]
      · rw [List.getElem?_eq_none (Nat.le_of_lt hgt), List.getElem?_eq_none (by simp; omega)]
  · intro hmem
    rcases hcases with ⟨_, hrules⟩ | ⟨hnone, _⟩
    · exact hrules
    · exact absurd hmem (RuleSet.sessionRule?_eq_none_iff.1 hnone)
  · intro hnot
    rcases hcases with ⟨hfound, _⟩ | ⟨_, hi, hadded⟩
    · obtain ⟨r, hr, happ⟩ := RuleSet.sessionRule?_eq_some hfound
      exact absurd (RuleSet.mem_sessionApps hr happ) hnot
    · exact ⟨hi, hadded⟩

/-- After any run in which the rules that are put in from outside are no session rules, each
application has at most one session rule. Selecting the session rule of an application succeeds
exactly if it is there or can be built, and then it is selected, as the only one and with nothing
unread. It is added exactly if it was not there, and no other rule changes, nor anything that is
saved. From then on it is found again and nothing is added, until it is removed or another rule is
put in its place. -/
theorem sessionRule_run {p₀ : Panel} (hp : Opens p₀) {es : List Event} (h : ∀ e ∈ es, e.Lasting) :
    let p := p₀.events es
    (∀ (i j : Nat) (r r' : Rule) app, p.rules.rules[i]? = some r → p.rules.rules[j]? = some r' →
      r.sessionApp? = some app → r'.sessionApp? = some app → i = j) ∧
    ∀ app,
      ((∃ q i, p.selectApp app = .ok (q, i)) ↔
        app ∈ p.rules.sessionApps ∨ ∃ r, Rule.build (sessionCriteria app) true = .ok r) ∧
      ∀ q i, p.selectApp app = .ok (q, i) → SelectsSession p app q i ∧
        ∀ more, q.Spares app more → ∃ q' j, (q.events more).selectApp app = .ok (q', j) ∧
          q'.rules.size = (q.events more).rules.size := by
  intro p
  have hnodup : p.rules.sessionApps.Nodup := by
    apply nodup_events _ h
    rw [sessionApps_of_opens hp]
    exact List.nodup_nil
  refine ⟨?_, ?_⟩
  · intro i j r r' app hr hr' happ happ'
    exact RuleSet.eq_of_nodup hnodup hr hr' happ happ'
  · intro app
    refine ⟨exists_selectApp_iff, ?_⟩
    intro q i hselect
    have hsession := selectsSession hnodup hselect
    refine ⟨hsession, ?_⟩
    intro more hspared
    obtain ⟨r, hr, happ, _⟩ := hsession.session
    -- The application keeps its session rule as long as it is spared, so it is selected again.
    have hstill := mem_sessionApps_events (RuleSet.mem_sessionApps hr happ) hspared
    obtain ⟨q', j, hagain⟩ := exists_selectApp_iff.2 (.inl hstill)
    refine ⟨q', j, hagain, ?_⟩
    obtain ⟨-, -, ⟨-, hrules⟩ | ⟨hnone, -⟩⟩ := rules_of_selectApp hagain
    · unfold RuleSet.size
      rw [hrules, List.length_modify]
    · exact absurd hstill (RuleSet.sessionRule?_eq_none_iff.1 hnone)

/-- The session rule of an application is selected again, and stays the only one when another rule
before it is removed. -/
theorem sessionRule_run_moved :
    ∃ (rule : Rule) (es : List Event) (q q' : Panel) (j : Nat),
      (Panel.start 5 (.memory "") .empty).result = .ok fresh ∧ rule.transient = false ∧
      es = [.act (.perform (.add rule)), .act (.perform (.selectApp "com.example")),
        .act (.perform (.select 0))] ∧
      (∀ e ∈ es, e.Lasting) ∧ (fresh.events es).selectApp "com.example" = .ok (q, 2) ∧
      SelectsSession (fresh.events es) "com.example" q 2 ∧
      q.Spares "com.example" [.act (.perform (.remove 1))] ∧
      (q.events [.act (.perform (.remove 1))]).selectApp "com.example" = .ok (q', j) ∧
      q'.rules.size = (q.events [.act (.perform (.remove 1))]).rules.size := by
  let rule : Rule := ⟨.named "all", ⟨none, none, none⟩, false, 0, rfl⟩
  let es : List Event :=
    [.act (.perform (.add rule)), .act (.perform (.selectApp "com.example")),
      .act (.perform (.select 0))]
  have hlasting : ∀ e ∈ es, e.Lasting := by simp [es, Event.Lasting, Op.Lasting, rule]
  have hindex : ((fresh.events es).selectApp "com.example").map (·.2) = .ok 2 := by
    decide +kernel
  obtain ⟨⟨q, _⟩, hselect, rfl⟩ := map_eq_ok_iff.1 hindex
  obtain ⟨-, hall⟩ := sessionRule_run (.start start_fresh) hlasting
  obtain ⟨-, hthen⟩ := hall "com.example"
  obtain ⟨hsession, hagain⟩ := hthen q 2 hselect
  have hspared : q.Spares "com.example" [.act (.perform (.remove 1))] := by
    refine ⟨?_, trivial⟩
    intro i r hr happ htakes
    have hi := hsession.only i r hr happ
    have htaken : (1 : Int) = i := htakes
    omega
  obtain ⟨q', j, hfound, hsize⟩ := hagain _ hspared
  exact ⟨rule, es, q, q', j, start_fresh, rfl, rfl, hlasting, hselect, hsession, hspared, hfound,
    hsize⟩

end Panel

end LogViewer
