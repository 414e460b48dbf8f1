import LogViewer.Proofs.Panel.Run
import LogViewer.Proofs.Rules.Selection
import Mathlib.Data.List.Induction

/-!
# Where rules go

A rule keeps its position until one above it is removed. Rules that are added come behind all
others, and one that is put in place of another has its position. So a position is followed through
operations on a panel until its rule is removed.

## Main definitions

- `Panel.Op.moved`, `Panel.follow`: where the rule of a position is after one operation and several
- `Panel.RemovedAbove`, `Panel.Replaced`: what has happened to a rule on the way

## Main statements

- `Panel.exists_follow`: the rule is there
- `Panel.follow_le`: whether it has moved
-/

namespace LogViewer.Panel

/-! ## §1 One operation -/

/-- Where the rule of a position is after an operation, unless it is removed. -/
def Op.moved (i : Nat) : Op → Option Nat
  | .remove index =>
    if index = i ∧ 0 < i then none else some (if 0 < index ∧ index < i then i - 1 else i)
  | _ => some i

/-- An operation puts another rule in the place of that of a position. -/
def Op.Replaces (i : Nat) : Op → Prop
  | .edit index _ => index = i ∧ 0 < i
  | _ => False

/-- An operation removes a rule above a position. -/
def Op.RemovesAbove (i : Nat) : Op → Prop
  | .remove index => 0 < index ∧ index < i
  | _ => False

/-- A rule that is not removed is where it has moved, and it is the same unless it is replaced. -/
theorem exists_moved {p : Panel} {op : Op} {i j : Nat} {r : Rule} (hr : p.rules.rules[i]? = some r)
    (h : op.moved i = some j) :
    ∃ r', (p.step op).rules.rules[j]? = some r' ∧ (op.Replaces i ∨ r'.Same r) := by
  -- An operation on the rules themselves leaves each rule that it does not take.
  have hkept : ∀ {rules : RuleSet} (o : RuleSet.Op), rules = p.rules.perform o → ¬ o.Takes i →
      o.shift i = j → ∃ r', rules.rules[j]? = some r' ∧ (op.Replaces i ∨ r'.Same r) := by
    rintro rules o rfl htakes rfl
    obtain ⟨r', hr', hsame⟩ := RuleSet.exists_same_perform hr htakes
    exact ⟨r', hr', .inr hsame⟩
  have hstays : (p.step op).rules = p.rules → i = j →
      ∃ r', (p.step op).rules.rules[j]? = some r' ∧ (op.Replaces i ∨ r'.Same r) := by
    rintro hrules rfl
    exact ⟨r, by rw [hrules, hr], .inr (Rule.Same.refl r)⟩
  cases op with
  | receive batch =>
    exact hkept (.countUnread batch) (rules_receive p batch) id (Option.some.inj h)
  | clear => exact hstays rfl (Option.some.inj h)
  | resetSource => exact hkept .markRead rfl id (Option.some.inj h)
  | setMaximum n => exact hstays (rules_setMaximum p n) (Option.some.inj h)
  | setQuery query level => exact hstays (rules_setQuery p query level) (Option.some.inj h)
  | select index => exact hkept (.select index) rfl id (Option.some.inj h)
  | add r => exact hkept (.add r) rfl id (Option.some.inj h)
  | remove index =>
    obtain ⟨htakes, hshift⟩ := Option.ite_none_left_eq_some.1 h
    exact hkept (.remove index) (rules_remove p index) htakes (Option.some.inj hshift)
  | edit index new =>
    obtain rfl : i = j := Option.some.inj h
    by_cases htakes : index = i ∧ 0 < i
    · -- Another rule has its position, or the replacement was refused.
      have hrules : (p.step (.edit index new)).rules = (p.rules.replace index new).1 := rules_edit p index new
      have hi : i < (p.rules.replace index new).1.rules.length := by
        have hlt := (List.getElem?_eq_some_iff.1 hr).1
        rcases p.rules.replace_cases index new with ⟨hsame, _⟩ | ⟨k, _, _, _, _, _, hset⟩
        · rw [hsame]
          exact hlt
        · rw [hset, List.length_set]
          exact hlt
      rw [hrules, List.getElem?_eq_getElem hi]
      exact ⟨_, rfl, .inl htakes⟩
    · exact hkept (.replace index new) (rules_edit p index new) htakes rfl
  | selectApp app =>
    rcases step_selectApp_cases p app with hstep | ⟨index, hstep⟩ | ⟨new, _, hstep⟩
    · exact hstays (congrArg rules hstep) (Option.some.inj h)
    · exact hkept (.select index) (congrArg rules hstep) id (Option.some.inj h)
    · -- The new rule comes behind the others, and is selected.
      obtain rfl : i = j := Option.some.inj h
      have hadds : ¬ (RuleSet.Op.add new).Takes i := id
      have hselects : ¬ (RuleSet.Op.select p.rules.rules.length).Takes i := id
      obtain ⟨r₁, hr₁, hsame₁⟩ := RuleSet.exists_same_perform hr hadds
      obtain ⟨r₂, hr₂, hsame₂⟩ := RuleSet.exists_same_perform hr₁ hselects
      rw [hstep]
      exact ⟨r₂, hr₂, .inr (hsame₂.trans hsame₁)⟩

/-- A rule moves up, by one, exactly if one above it is removed, and never to the first position. -/
theorem moved_le {op : Op} {i j : Nat} (h : op.moved i = some j) :
    j ≤ i ∧ (0 < i → 0 < j) ∧ (j = i ↔ ¬ op.RemovesAbove i) := by
  cases op with
  | remove index =>
    obtain ⟨htakes, hshift⟩ := Option.ite_none_left_eq_some.1 h
    have hj : (if 0 < index ∧ index < i then i - 1 else i) = j := Option.some.inj hshift
    have habove : (Op.remove index).RemovesAbove i ↔ 0 < index ∧ index < i := Iff.rfl
    rw [habove]
    split at hj <;> omega
  | _ =>
    obtain rfl : i = j := Option.some.inj h
    exact ⟨Nat.le_refl _, id, iff_of_true rfl id⟩

/-! ## §2 Several operations -/

/-- Where the rule of a position is after some operations, unless it is removed. -/
def follow (ops : List Op) (i : Nat) : Option Nat := ops.foldlM (fun i op => op.moved i) i

@[simp] theorem follow_nil (i : Nat) : follow [] i = some i := rfl

theorem follow_append (ops more : List Op) (i : Nat) :
    follow (ops ++ more) i = (follow ops i).bind (follow more) :=
  List.foldlM_append

@[simp] theorem follow_concat (ops : List Op) (op : Op) (i : Nat) :
    follow (ops ++ [op]) i = (follow ops i).bind op.moved := by
  rw [follow_append]
  refine congrArg (follow ops i).bind (funext fun k => ?_)
  simp [follow]

/-- Some operation does something to the rule of a position, wherever it is by then. -/
def Befalls (what : Nat → Op → Prop) (ops : List Op) (i : Nat) : Prop :=
  ∃ before op after k, ops = before ++ op :: after ∧ follow before i = some k ∧ what k op

/-- A rule above that of a position is removed. -/
def RemovedAbove : List Op → Nat → Prop := Befalls Op.RemovesAbove

/-- Another rule is put in the place of that of a position. -/
def Replaced : List Op → Nat → Prop := Befalls Op.Replaces

theorem Befalls.append {what : Nat → Op → Prop} {ops : List Op} {i : Nat} (h : Befalls what ops i)
    (more : List Op) : Befalls what (ops ++ more) i := by
  obtain ⟨before, op, after, k, rfl, hfollow, hwhat⟩ := h
  exact ⟨before, op, after ++ more, k, by simp, hfollow, hwhat⟩

/-- What befalls a rule after some operations, befalls it where they have moved it. -/
theorem Befalls.after {what : Nat → Op → Prop} {ops more : List Op} {i k : Nat}
    (hk : follow ops i = some k) (h : Befalls what more k) : Befalls what (ops ++ more) i := by
  obtain ⟨before, op, after, k', rfl, hfollow, hwhat⟩ := h
  refine ⟨ops ++ before, op, after, k', by simp, ?_, hwhat⟩
  rw [follow_append, hk]
  exact hfollow

/-- What befalls a rule, one of the earlier operations does or the last one. -/
theorem befalls_concat {what : Nat → Op → Prop} {ops : List Op} {op : Op} {i k : Nat}
    (h : follow ops i = some k) : Befalls what (ops ++ [op]) i ↔ Befalls what ops i ∨ what k op := by
  constructor
  · rintro ⟨before, op', after, k', hsplit, hfollow, hwhat⟩
    rcases List.eq_nil_or_concat after with rfl | ⟨after, last, rfl⟩
    · obtain ⟨rfl, hlast⟩ := List.append_inj' hsplit rfl
      cases hlast
      cases h.symm.trans hfollow
      exact .inr hwhat
    · rw [List.concat_eq_append, ← List.cons_append, ← List.append_assoc] at hsplit
      obtain ⟨rfl, -⟩ := List.append_inj' hsplit rfl
      exact .inl ⟨before, op', after, k', rfl, hfollow, hwhat⟩
  · rintro (hbefore | hwhat)
    · exact hbefore.append [op]
    · exact ⟨ops, op, [], k, rfl, h, hwhat⟩

/-- A rule that is not removed by some operations is where they have moved it, and it is the same
unless it is replaced. -/
theorem exists_follow {p : Panel} {ops : List Op} {i j : Nat} {r : Rule} (hr : p.rules.rules[i]? = some r)
    (h : follow ops i = some j) :
    ∃ r', (p.run ops).rules.rules[j]? = some r' ∧ (Replaced ops i ∨ r'.Same r) := by
  induction ops using List.reverseRecOn generalizing j with
  | nil =>
    cases h
    exact ⟨r, hr, .inr (Rule.Same.refl r)⟩
  | append_singleton ops op ih =>
    rw [follow_concat] at h
    obtain ⟨k, hk, hmoved⟩ := Option.bind_eq_some_iff.1 h
    obtain ⟨r₁, hr₁, hsame₁⟩ := ih hk
    obtain ⟨r₂, hr₂, hsame₂⟩ := exists_moved hr₁ hmoved
    rw [run_concat]
    refine ⟨r₂, hr₂, ?_⟩
    unfold Replaced at hsame₁ ⊢
    rw [befalls_concat hk]
    rcases hsame₁ with hreplaced | hsame₁
    · exact .inl (.inl hreplaced)
    · rcases hsame₂ with hreplaced | hsame₂
      · exact .inl (.inr hreplaced)
      · exact .inr (hsame₂.trans hsame₁)

/-- A rule only moves up, never to the first position, and it stays where it is exactly if none
above it is removed. -/
theorem follow_le {ops : List Op} {i j : Nat} (h : follow ops i = some j) :
    j ≤ i ∧ (0 < i → 0 < j) ∧ (j = i ↔ ¬ RemovedAbove ops i) := by
  induction ops using List.reverseRecOn generalizing j with
  | nil =>
    cases h
    refine ⟨Nat.le_refl _, id, iff_of_true rfl ?_⟩
    rintro ⟨before, op, after, k, hsplit, -, -⟩
    simp at hsplit
  | append_singleton ops op ih =>
    rw [follow_concat] at h
    obtain ⟨k, hk, hmoved⟩ := Option.bind_eq_some_iff.1 h
    obtain ⟨hle, hpos, hsame⟩ := ih hk
    obtain ⟨hle', hpos', hsame'⟩ := moved_le hmoved
    refine ⟨Nat.le_trans hle' hle, fun hi => hpos' (hpos hi), ?_⟩
    unfold RemovedAbove at hsame ⊢
    rw [befalls_concat hk, not_or, ← hsame, ← hsame']
    omega

end LogViewer.Panel
