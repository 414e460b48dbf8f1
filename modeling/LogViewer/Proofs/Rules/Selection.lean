import LogViewer.Proofs.Rules.Changes

/-!
# The selection of a rule set

A run is a list of operations on a rule set. Every operation leaves all rules where they are, but
for their counts, except for one that it takes out or puts another in place of, and the rules behind
one that is taken out move up by one. So the selected rule stays the selected one until an operation
selects, or concerns the selected rule itself.

## Main definitions

- `Rule.Same`: the same rule, whatever is unread for it
- `RuleSet.Op`, `RuleSet.perform`, `RuleSet.run`: the operations, one of them and a run of them
- `RuleSet.Op.Takes`, `RuleSet.Op.shift`: the rule that an operation takes, and where the others go
- `RuleSet.Reselects`, `RuleSet.KeepsSelection`: operations that may select another rule, and runs
  without them
- `RuleSet.RefusesOutside`: refusing the default rule and what is no rule

## Main statements

- `RuleSet.exists_same_perform`: where each rule is after an operation
- `RuleSet.selectedRule_perform`, `RuleSet.selectedRule_run`: the selected rule stays selected
- `RuleSet.refusesOutside_remove`, `RuleSet.refusesOutside_replace`: when an index is refused
- `RuleSet.remove_rules`, `RuleSet.replace_rules`: what becomes of the rules otherwise
- `RuleSet.selection_run`: the selection after every run
-/

namespace LogViewer

/-! ## §1 The same rule -/

namespace Rule

/-- The same rule, whatever is unread for it. -/
def Same (a b : Rule) : Prop := a.markRead = b.markRead

theorem Same.refl (r : Rule) : r.Same r := rfl

theorem Same.trans {a b c : Rule} (h : a.Same b) (h' : b.Same c) : a.Same c := Eq.trans h h'

/-- Rules that differ in their counts let the same messages through. -/
theorem Same.matches_eq {a b : Rule} (h : a.Same b) : a.matches = b.matches := by
  rw [← a.matches_markRead, show a.markRead = b.markRead from h, b.matches_markRead]

theorem same_markRead (r : Rule) : r.markRead.Same r := rfl

theorem same_countUnread (r : Rule) (batch : List Message) : (r.countUnread batch).Same r := rfl

/-- The default rule lets every message through. -/
theorem IsDefault.matches_eq_true {r : Rule} (h : r.IsDefault) (m : Message) :
    r.matches m = true :=
  matches_of_named h.1 m

end Rule

namespace RuleSet

/-! ## §2 The selected rule -/

/-- The selected rule stands at the selected position. -/
theorem getElem?_selected (s : RuleSet) : s.rules[s.selected]? = some s.selectedRule :=
  List.getElem?_eq_getElem s.selected_lt

/-- The rule at the selected position is the selected one. -/
theorem selectedRule_eq {s : RuleSet} {r : Rule} (h : s.rules[s.selected]? = some r) :
    s.selectedRule = r :=
  Option.some.inj (s.getElem?_selected.symm.trans h)

/-- Adding a rule keeps the selected rule. -/
theorem selectedRule_add (s : RuleSet) (r : Rule) : (s.add r).1.selectedRule = s.selectedRule := by
  apply selectedRule_eq
  rw [add_rules, add_selected, List.getElem?_append_left s.selected_lt]
  exact s.getElem?_selected

/-- Removing another rule keeps the selected rule. -/
theorem selectedRule_remove {s : RuleSet} {index : Int} (h : index ≠ s.selected) :
    (s.remove index).1.selectedRule = s.selectedRule := by
  rcases s.remove_cases index with ⟨hsame, _⟩ | ⟨k, rfl, _, _, _, hselected, hrules⟩
  · rw [hsame]
  · have hk : k ≠ s.selected := fun heq => h (congrArg Nat.cast heq)
    apply selectedRule_eq
    rw [hrules, hselected, if_neg hk, List.getElem?_eraseIdx, ← s.getElem?_selected]
    by_cases hlt : s.selected < k
    · rw [if_pos hlt, if_pos hlt]
    · -- The selected rule has moved up by one.
      have hmoved : s.selected - 1 + 1 = s.selected := by omega
      rw [if_neg hlt, if_neg (by omega), hmoved]

/-- Replacing another rule keeps the selected rule. -/
theorem selectedRule_replace {s : RuleSet} {index : Int} (r : Rule) (h : index ≠ s.selected) :
    (s.replace index r).1.selectedRule = s.selectedRule := by
  rcases s.replace_cases index r with ⟨hsame, _⟩ | ⟨k, rfl, _, _, _, hselected, hrules⟩
  · rw [hsame]
  · have hk : k ≠ s.selected := fun heq => h (congrArg Nat.cast heq)
    apply selectedRule_eq
    rw [hrules, hselected, List.getElem?_set_ne hk]
    exact s.getElem?_selected

/-! ## §3 Operations -/

/-- An operation on a rule set. -/
inductive Op where
  | select (index : Int)
  | add (r : Rule)
  | remove (index : Int)
  | replace (index : Int) (r : Rule)
  | countUnread (batch : List Message)
  | markRead

/-- The rule set after an operation. -/
def perform (s : RuleSet) : Op → RuleSet
  | .select index => (s.select index).1
  | .add r => (s.add r).1
  | .remove index => (s.remove index).1
  | .replace index r => (s.replace index r).1
  | .countUnread batch => s.countUnread batch
  | .markRead => s.markRead

/-- The rule set after some operations. -/
def run (s : RuleSet) (ops : List Op) : RuleSet := ops.foldl perform s

/-- An operation takes out the rule at a position, or puts another in its place. -/
def Op.Takes (i : Nat) : Op → Prop
  | .remove index | .replace index _ => index = i ∧ 0 < i
  | _ => False

/-- Where an operation leaves the rule at a position, unless it takes it. -/
def Op.shift (i : Nat) : Op → Nat
  | .remove index => if 0 < index ∧ index < i then i - 1 else i
  | _ => i

/-- An operation selects, or removes or replaces the selected rule. -/
def Reselects (s : RuleSet) : Op → Prop
  | .select _ => True
  | .remove index | .replace index _ => index = s.selected
  | _ => False

/-! ## §4 Where the rules go -/

/-- The rules behind one that is removed move up by one. -/
theorem Op.shift_remove {k : Nat} (h : 0 < k) (i : Nat) :
    (Op.remove k).shift i = if k < i then i - 1 else i := by
  have hbehind : (0 < (k : Int) ∧ (k : Int) < i) ↔ k < i := by omega
  simp only [shift, hbehind]

/-- A removal leaves the other rules there, in their order. -/
theorem exists_same_remove {s : RuleSet} {index : Int} {i : Nat} {r : Rule}
    (hr : s.rules[i]? = some r) (h : ¬ (Op.remove index).Takes i) :
    ∃ r', (s.remove index).1.rules[(Op.remove index).shift i]? = some r' ∧ r'.Same r := by
  have hi : i < s.rules.length := (List.getElem?_eq_some_iff.1 hr).1
  rcases s.remove_cases index with ⟨hsame, hrefused⟩ | ⟨k, rfl, hpos, hk, _, _, hrules⟩
  · -- The index names no rule before this one.
    have hstays : (Op.remove index).shift i = i := by
      refine if_neg fun hin => ?_
      have := hrefused index.toNat (by omega)
      omega
    exact ⟨r, by rw [hsame, hstays, hr], Rule.Same.refl r⟩
  · have hne : k ≠ i := by
      rintro rfl
      exact h ⟨rfl, hpos⟩
    -- A rule behind the removed one moves up by one.
    have hplace : (s.rules.eraseIdx k)[(Op.remove k).shift i]? = some r := by
      rw [← hr, Op.shift_remove hpos, List.getElem?_eraseIdx]
      by_cases hlt : k < i
      · have hmoved : i - 1 + 1 = i := by omega
        rw [if_pos hlt, if_neg (by omega), hmoved]
      · rw [if_neg hlt, if_pos (by omega)]
    rw [hrules]
    split
    · -- The rule before the removed one may have been read.
      rw [List.getElem?_modify, hplace]
      split
      · exact ⟨r.markRead, rfl, r.same_markRead⟩
      · exact ⟨r, rfl, Rule.Same.refl r⟩
    · exact ⟨r, hplace, Rule.Same.refl r⟩

/-- A replacement leaves the other rules where they are. -/
theorem exists_same_replace {s : RuleSet} {index : Int} {new : Rule} {i : Nat} {r : Rule}
    (hr : s.rules[i]? = some r) (h : ¬ (Op.replace index new).Takes i) :
    ∃ r', (s.replace index new).1.rules[i]? = some r' ∧ r'.Same r := by
  refine ⟨r, ?_, Rule.Same.refl r⟩
  rcases s.replace_cases index new with ⟨hsame, _⟩ | ⟨k, rfl, hpos, _, _, _, hrules⟩
  · rw [hsame, hr]
  · have hne : k ≠ i := by
      rintro rfl
      exact h ⟨rfl, hpos⟩
    rw [hrules, List.getElem?_set_ne hne, hr]

/-- After an operation, every rule that it does not take is there, with its criteria and patterns,
and behind the rules that it was behind before. -/
theorem exists_same_perform {s : RuleSet} {op : Op} {i : Nat} {r : Rule}
    (hr : s.rules[i]? = some r) (h : ¬ op.Takes i) :
    ∃ r', (s.perform op).rules[op.shift i]? = some r' ∧ r'.Same r := by
  cases op with
  | select index =>
    show ∃ r', (s.select index).1.rules[i]? = some r' ∧ _
    rw [getElem?_select, hr]
    split
    · exact ⟨r.markRead, rfl, r.same_markRead⟩
    · exact ⟨r, rfl, Rule.Same.refl r⟩
  | add new =>
    have hi : i < s.rules.length := (List.getElem?_eq_some_iff.1 hr).1
    refine ⟨r, ?_, Rule.Same.refl r⟩
    show (s.add new).1.rules[i]? = some r
    rw [add_rules, List.getElem?_append_left hi, hr]
  | remove index => exact exists_same_remove hr h
  | replace index new => exact exists_same_replace hr h
  | countUnread batch =>
    show ∃ r', (s.countUnread batch).rules[i]? = some r' ∧ _
    rw [getElem?_countUnread, hr]
    split
    · exact ⟨r, rfl, Rule.Same.refl r⟩
    · exact ⟨r.countUnread batch, rfl, r.same_countUnread batch⟩
  | markRead =>
    refine ⟨r.markRead, ?_, r.same_markRead⟩
    show s.markRead.rules[i]? = some r.markRead
    rw [getElem?_markRead, hr]
    rfl

/-! ## §5 The selection stays -/

/-- An operation that does not reselect moves the selection with the rules. -/
theorem selected_perform {s : RuleSet} {op : Op} (h : ¬ s.Reselects op) :
    (s.perform op).selected = op.shift s.selected := by
  cases op with
  | select index => exact absurd trivial h
  | remove index =>
    have hne : index ≠ s.selected := h
    have hlt := s.selected_lt
    rcases s.remove_cases index with ⟨hsame, hrefused⟩ | ⟨k, rfl, hpos, _, _, hselected, _⟩
    · -- Nothing is removed, as no rule has the index.
      have hstays : (Op.remove index).shift s.selected = s.selected := by
        refine if_neg fun hin => ?_
        have := hrefused index.toNat (by omega)
        omega
      rw [hstays]
      exact congrArg (fun s => s.1.selected) hsame
    · rw [Op.shift_remove hpos]
      -- The selection moves up with its rule if the removed one stood before it.
      refine hselected.trans ?_
      by_cases hk : s.selected < k
      · rw [if_pos hk, if_neg (by omega)]
      · rw [if_neg hk, if_pos (by omega)]
  | replace index r =>
    show (s.replace index r).1.selected = s.selected
    rcases s.replace_cases index r with ⟨hsame, _⟩ | ⟨k, _, _, _, _, hselected, _⟩
    · rw [hsame]
    · exact hselected
  | add r => rfl
  | countUnread batch => rfl
  | markRead => rfl

/-- An operation that does not reselect keeps the selected rule. -/
theorem selectedRule_perform {s : RuleSet} {op : Op} (h : ¬ s.Reselects op) :
    (s.perform op).selectedRule.Same s.selectedRule := by
  have htakes : ¬ op.Takes s.selected := by
    intro htakes
    cases op with
    | remove index => exact h htakes.1
    | replace index r => exact h htakes.1
    | _ => exact htakes
  obtain ⟨r, hr, hsame⟩ := exists_same_perform s.getElem?_selected htakes
  rw [← selected_perform h] at hr
  rwa [selectedRule_eq hr]

/-- No operation of a run reselects. -/
def KeepsSelection (s : RuleSet) : List Op → Prop
  | [] => True
  | op :: ops => ¬ s.Reselects op ∧ (s.perform op).KeepsSelection ops

/-- Through a run whose operations do not reselect, the selected rule stays selected. -/
theorem selectedRule_run {s : RuleSet} {ops : List Op} (h : s.KeepsSelection ops) :
    (s.run ops).selectedRule.Same s.selectedRule := by
  induction ops generalizing s with
  | nil => exact Rule.Same.refl _
  | cons op ops ih => exact (ih h.2).trans (selectedRule_perform h.1)

/-! ## §6 Refused indices -/

/-- What refuses the default rule and what is no rule, and nothing else, and then changes nothing.
-/
def RefusesOutside (s : RuleSet) (index : Int) (result : RuleSet × Bool) : Prop :=
  (result.2 = false ↔ index ≤ 0 ∨ s.size ≤ index) ∧ (result.2 = false → result.1 = s)

/-- The index is refused, or it is the position of a rule behind the default rule. -/
theorem refusesOutside_of_cases {s : RuleSet} {index : Int} {result : RuleSet × Bool}
    (h : (result = (s, false) ∧ ∀ k : Nat, index = (k : Int) → k = 0 ∨ s.rules.length ≤ k) ∨
      ∃ k : Nat, index = (k : Int) ∧ 0 < k ∧ k < s.rules.length ∧ result.2 = true) :
    s.RefusesOutside index result := by
  rcases h with ⟨rfl, hrefused⟩ | ⟨k, rfl, hpos, hk, hdone⟩
  · have hout : index ≤ 0 ∨ (s.rules.length : Int) ≤ index := by
      have := hrefused index.toNat
      omega
    exact ⟨⟨fun _ => hout, fun _ => rfl⟩, fun _ => rfl⟩
  · have hin : ¬ ((k : Int) ≤ 0 ∨ (s.size : Int) ≤ k) := by
      unfold size
      omega
    unfold RefusesOutside
    rw [hdone, iff_false_right hin]
    exact ⟨Bool.noConfusion, Bool.noConfusion⟩

theorem refusesOutside_remove (s : RuleSet) (index : Int) :
    s.RefusesOutside index (s.remove index) := by
  refine refusesOutside_of_cases ((s.remove_cases index).imp_right ?_)
  rintro ⟨k, hindex, hpos, hk, hdone, _⟩
  exact ⟨k, hindex, hpos, hk, hdone⟩

theorem refusesOutside_replace (s : RuleSet) (index : Int) (r : Rule) :
    s.RefusesOutside index (s.replace index r) := by
  refine refusesOutside_of_cases ((s.replace_cases index r).imp_right ?_)
  rintro ⟨k, hindex, hpos, hk, hdone, _⟩
  exact ⟨k, hindex, hpos, hk, hdone⟩

/-! ## §7 Every run -/

/-- A removal that is not refused takes out one rule and leaves the others alone, except that the
rule before a selected one that is removed is selected and read. -/
theorem remove_rules (s : RuleSet) {k : Nat} (hpos : 0 < k) (hk : k < s.size) :
    (k ≠ s.selected → (s.remove k).1.rules = s.rules.eraseIdx k) ∧
    (k = s.selected → (s.remove k).1.selected = k - 1 ∧
      (s.remove k).1.rules = (s.rules.eraseIdx k).modify (k - 1) Rule.markRead) := by
  have hlt : k < s.rules.length := hk
  rcases s.remove_cases k with ⟨_, hrefused⟩ | ⟨k', hk', _, _, _, hselected, hrules⟩
  · have := hrefused k rfl
    omega
  · obtain rfl : k = k' := by omega
    constructor
    · intro hother
      rw [hrules, if_neg hother]
    · intro hsame
      rw [hrules, if_pos hsame, hselected, if_neg (by omega)]
      exact ⟨by rw [hsame], rfl⟩

/-- A replacement that is not refused puts the new rule in the place of the old one and leaves the
others and the selection alone. -/
theorem replace_rules (s : RuleSet) {k : Nat} (hpos : 0 < k) (hk : k < s.size) (r : Rule) :
    (s.replace k r).1.rules = s.rules.set k r ∧ (s.replace k r).1.selected = s.selected := by
  have hlt : k < s.rules.length := hk
  rcases s.replace_cases k r with ⟨_, hrefused⟩ | ⟨k', hk', _, _, _, hselected, hrules⟩
  · have := hrefused k rfl
    omega
  · obtain rfl : k = k' := by omega
    exact ⟨hrules, hselected⟩

/-- After every run of operations with any indices, the selection is a rule and the first rule is
the default rule, which lets every message through. An operation keeps the selected rule unless it
selects or concerns the selected rule itself, and so does a run of such operations. A removal or
replacement is refused, and changes nothing, exactly for the default rule and for what is no rule.
Otherwise it takes or replaces the one rule; the others stay with their counts and in their order,
except that the rule before a selected one that is removed is selected and read. -/
theorem selection_run (rules : List Rule) (ops : List Op) :
    let s := (ofRules rules).run ops
    (s.selected < s.size ∧ ∃ r, s.rules[0]? = some r ∧
      r.criteria = ⟨"All messages (no filters)", "", "", "", "", .verbose⟩ ∧ r.transient = false ∧
      ∀ m, r.matches m = true) ∧
    (∀ op, ¬ s.Reselects op → (s.perform op).selected = op.shift s.selected ∧
      (s.perform op).selectedRule.Same s.selectedRule) ∧
    (∀ more, s.KeepsSelection more → (s.run more).selectedRule.Same s.selectedRule) ∧
    (∀ op i r, s.rules[i]? = some r → ¬ op.Takes i →
      ∃ r', (s.perform op).rules[op.shift i]? = some r' ∧ r'.Same r) ∧
    (∀ index, ((s.remove index).2 = false ↔ index ≤ 0 ∨ s.size ≤ index) ∧
      ((s.remove index).2 = false → (s.remove index).1 = s)) ∧
    (∀ index r, ((s.replace index r).2 = false ↔ index ≤ 0 ∨ s.size ≤ index) ∧
      ((s.replace index r).2 = false → (s.replace index r).1 = s)) ∧
    (∀ k : Nat, 0 < k → k < s.size →
      (k ≠ s.selected → (s.remove k).1.rules = s.rules.eraseIdx k) ∧
      (k = s.selected → (s.remove k).1.selected = k - 1 ∧
        (s.remove k).1.rules = (s.rules.eraseIdx k).modify (k - 1) Rule.markRead)) ∧
    ∀ (k : Nat) r, 0 < k → k < s.size →
      (s.replace k r).1.rules = s.rules.set k r ∧ (s.replace k r).1.selected = s.selected := by
  intro s
  -- No operation reaches the first position, so the default rule is still there.
  have hdefault : ∃ r, s.rules[0]? = some r ∧
      r.criteria = ⟨"All messages (no filters)", "", "", "", "", .verbose⟩ ∧ r.transient = false ∧
      ∀ m, r.matches m = true := by
    obtain ⟨r, rest, hrules, hr⟩ := s.default_first
    refine ⟨r, ?_, hr.1, hr.2, hr.matches_eq_true⟩
    rw [hrules]
    rfl
  refine ⟨⟨s.selected_lt, hdefault⟩, ?_, ?_, ?_, ?_, ?_, ?_, ?_⟩
  · intro op h
    exact ⟨selected_perform h, selectedRule_perform h⟩
  · intro more h
    exact selectedRule_run h
  · intro op i r hr h
    exact exists_same_perform hr h
  · intro index
    exact s.refusesOutside_remove index
  · intro index r
    exact s.refusesOutside_replace index r
  · intro k hpos hk
    exact s.remove_rules hpos hk
  · intro k r hpos hk
    exact s.replace_rules hpos hk r

end RuleSet

end LogViewer
