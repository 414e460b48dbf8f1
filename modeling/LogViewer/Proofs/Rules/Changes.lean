import LogViewer.RuleSet

/-!
# What the changes of a rule set do

Each operation on a rule set is described by the rule that stands at a position afterwards and by
the position that is selected afterwards. Later proofs about rule sets use these descriptions and do
not look into the operations again.

## Main statements

- `RuleSet.getElem?_select`: the rules after a selection
- `RuleSet.remove_cases`, `RuleSet.replace_cases`: what the two operations that can refuse do
- `RuleSet.getElem?_countUnread`, `RuleSet.getElem?_markRead`: the rules after counting and reading
- `RuleSet.map_select`, `map_countUnread`, `map_markRead`: they change no more than the counts
-/

namespace LogViewer

/-! ## §1 Rules whose count changes -/

/-- No message is below the lowest level. -/
theorem Level.verbose_le (l : Level) : Level.verbose ≤ l := by
  cases l <;> decide

namespace Rule

/-- An empty process number asks nothing. -/
@[simp] theorem pidMatches_empty (m : Message) : pidMatches "" m = true := by
  have htrimmed : Text.trimmed "" = "" := by decide
  rw [pidMatches, htrimmed]
  rfl

@[simp] theorem unread_markRead (r : Rule) : r.markRead.unread = 0 := rfl

@[simp] theorem unread_countUnread (r : Rule) (batch : List Message) :
    (r.countUnread batch).unread = r.unread + batch.countP r.matches := rfl

@[simp] theorem matches_markRead (r : Rule) : r.markRead.matches = r.matches := rfl

@[simp] theorem matches_countUnread (r : Rule) (batch : List Message) :
    (r.countUnread batch).matches = r.matches := rfl

/-- A rule is built of its criteria and their patterns. -/
theorem build_eq_ok_iff {c : Criteria} {transient : Bool} {r : Rule} :
    build c transient = .ok r ↔
      ∃ patterns, ∃ h : c.compile = .ok patterns, r = ⟨c, patterns, transient, 0, h⟩ := by
  unfold build
  split
  · next patterns hcompile =>
    constructor
    · intro h
      exact ⟨patterns, hcompile, (Except.ok.inj h).symm⟩
    · rintro ⟨patterns', hcompile', rfl⟩
      obtain rfl := Except.ok.inj (hcompile.symm.trans hcompile')
      rfl
  · next e hcompile => simp [hcompile]

/-- A rule that has just been built has nothing unread. -/
theorem unread_of_build {c : Criteria} {transient : Bool} {r : Rule}
    (h : build c transient = .ok r) : r.unread = 0 := by
  obtain ⟨_, _, rfl⟩ := build_eq_ok_iff.1 h
  rfl

/-- A rule is built for the session if that is asked for. -/
theorem transient_of_build {c : Criteria} {transient : Bool} {r : Rule}
    (h : build c transient = .ok r) : r.transient = transient := by
  obtain ⟨_, _, rfl⟩ := build_eq_ok_iff.1 h
  rfl

/-- A rule asks what it was built to ask. -/
theorem criteria_of_build {c : Criteria} {transient : Bool} {r : Rule}
    (h : build c transient = .ok r) : r.criteria = c := by
  obtain ⟨_, _, rfl⟩ := build_eq_ok_iff.1 h
  rfl

/-- A rule can be built exactly if its patterns compile. -/
theorem exists_build_iff {c : Criteria} {transient : Bool} :
    (∃ r, build c transient = .ok r) ↔ ∃ patterns, c.compile = .ok patterns := by
  constructor
  · rintro ⟨r, h⟩
    obtain ⟨patterns, hcompile, _⟩ := build_eq_ok_iff.1 h
    exact ⟨patterns, hcompile⟩
  · rintro ⟨patterns, hcompile⟩
    exact ⟨_, build_eq_ok_iff.2 ⟨patterns, hcompile, rfl⟩⟩

/-- A rule that asks nothing lets every message through. -/
theorem matches_of_named {r : Rule} {name : Text} (h : r.criteria = .named name) (m : Message) :
    r.matches m = true := by
  obtain ⟨criteria, patterns, transient, unread, compiled⟩ := r
  obtain rfl : criteria = .named name := h
  -- The compiled patterns are those of empty texts.
  cases compiled
  show (decide (Level.verbose ≤ m.level) && pidMatches "" m && true && true && true) = true
  simp [Level.verbose_le]

/-- A rule with nothing unread stays as it is when it is read. -/
theorem markRead_of_unread_eq_zero {r : Rule} (h : r.unread = 0) : r.markRead = r := by
  cases r
  cases h
  rfl

/-- An empty batch counts nothing. -/
@[simp] theorem countUnread_nil (r : Rule) : r.countUnread [] = r := rfl

end Rule

namespace RuleSet

/-! ## §2 Positions -/

/-- An index names the position that it is, if there is a rule. -/
theorem position?_eq_some {s : RuleSet} {index : Int} {i : Nat} {hi : i < s.rules.length}
    (h : s.position? index = some ⟨i, hi⟩) : index = (i : Int) := by
  unfold position? at h
  split at h
  · next hin =>
    cases h
    exact (Int.toNat_of_nonneg hin.1).symm
  · cases h

/-- An index that names no position is outside the list. -/
theorem position?_eq_none {s : RuleSet} {index : Int} (h : s.position? index = none) :
    ∀ k : Nat, index = (k : Int) → s.rules.length ≤ k := by
  intro k hk
  unfold position? at h
  split at h
  · cases h
  · next hout =>
    subst hk
    simpa using hout

/-! ## §3 Selecting and adding -/

/-- Selecting reads the rule that is selected afterwards. -/
theorem select_rules (s : RuleSet) (index : Int) :
    (s.select index).1.rules = s.rules.modify (s.select index).1.selected Rule.markRead := by
  unfold select
  split <;> rfl

/-- The rules after selecting, where the rule that is selected is read. -/
theorem getElem?_select (s : RuleSet) (index : Int) (i : Nat) :
    (s.select index).1.rules[i]?
      = if i = (s.select index).1.selected then s.rules[i]?.map Rule.markRead
        else s.rules[i]? := by
  rw [select_rules, List.getElem?_modify]
  split
  · next h =>
    rw [if_pos h.symm]
    rfl
  · next h =>
    rw [if_neg fun h' => h h'.symm]
    cases s.rules[i]? <;> rfl

/-- Selecting the position of a rule selects that rule. -/
theorem select_of_lt {s : RuleSet} {i : Nat} (h : i < s.rules.length) :
    s.select i = (s.selectAt i h, i) := by
  simp [select, position?, h]

/-- Reading a new rule at the end changes nothing, as nothing is unread in it. -/
theorem modify_concat (rules : List Rule) {r : Rule} (h : r.unread = 0) :
    (rules ++ [r]).modify rules.length Rule.markRead = rules ++ [r] := by
  rw [List.modify_eq_take_drop, List.take_left, List.drop_left, List.modifyHead_cons,
    Rule.markRead_of_unread_eq_zero h]

@[simp] theorem add_rules (s : RuleSet) (r : Rule) : (s.add r).1.rules = s.rules ++ [r] := rfl

@[simp] theorem add_selected (s : RuleSet) (r : Rule) : (s.add r).1.selected = s.selected := rfl

/-! ## §4 Removing and replacing -/

/-- A removal refuses the default rule and what is no rule, and otherwise takes a rule out. If that
was the selected one, the rule before it is selected and read. -/
theorem remove_cases (s : RuleSet) (index : Int) :
    (s.remove index = (s, false) ∧
      ∀ k : Nat, index = (k : Int) → k = 0 ∨ s.rules.length ≤ k) ∨
    ∃ k : Nat, index = (k : Int) ∧ 0 < k ∧ k < s.rules.length ∧ (s.remove index).2 = true ∧
      (s.remove index).1.selected = (if s.selected < k then s.selected else s.selected - 1) ∧
      (s.remove index).1.rules = (if k = s.selected
        then (s.rules.eraseIdx k).modify (k - 1) Rule.markRead else s.rules.eraseIdx k) := by
  cases hpos : s.position? index with
  | none =>
    left
    refine ⟨by simp [remove, hpos], ?_⟩
    intro k hk
    exact .inr (position?_eq_none hpos k hk)
  | some i =>
    obtain ⟨i, hi⟩ := i
    have hindex := position?_eq_some hpos
    by_cases hzero : i = 0
    · left
      refine ⟨by simp [remove, hpos, hzero], ?_⟩
      intro k hk
      left
      omega
    · right
      refine ⟨i, hindex, Nat.pos_of_ne_zero hzero, hi, ?_⟩
      -- Whether the removed rule was selected, stood before it or stood after it.
      rcases Nat.lt_trichotomy i s.selected with hlt | heq | hgt
      · have hne : i ≠ s.selected := Nat.ne_of_lt hlt
        have hnot : ¬ s.selected < i := Nat.not_lt_of_gt hlt
        simp [remove, hpos, hzero, hne, hlt, hnot]
      · have hzero' : s.selected ≠ 0 := heq ▸ hzero
        simp [remove, hpos, hzero', heq, selectAt]
      · have hne : i ≠ s.selected := by omega
        have hnot : ¬ i < s.selected := by omega
        simp [remove, hpos, hzero, hne, hgt, hnot]

/-- A replacement refuses the default rule and what is no rule, and otherwise puts the new rule in
the place of the old one. -/
theorem replace_cases (s : RuleSet) (index : Int) (r : Rule) :
    (s.replace index r = (s, false) ∧
      ∀ k : Nat, index = (k : Int) → k = 0 ∨ s.rules.length ≤ k) ∨
    ∃ k : Nat, index = (k : Int) ∧ 0 < k ∧ k < s.rules.length ∧ (s.replace index r).2 = true ∧
      (s.replace index r).1.selected = s.selected ∧
      (s.replace index r).1.rules = s.rules.set k r := by
  cases hpos : s.position? index with
  | none =>
    left
    refine ⟨by simp [replace, hpos], ?_⟩
    intro k hk
    exact .inr (position?_eq_none hpos k hk)
  | some i =>
    obtain ⟨i, hi⟩ := i
    have hindex := position?_eq_some hpos
    by_cases hzero : i = 0
    · left
      refine ⟨by simp [replace, hpos, hzero], ?_⟩
      intro k hk
      left
      omega
    · right
      refine ⟨i, hindex, Nat.pos_of_ne_zero hzero, hi, ?_⟩
      simp [replace, hpos, hzero]

/-! ## §5 Unread counts -/

@[simp] theorem countUnread_selected (s : RuleSet) (batch : List Message) :
    (s.countUnread batch).selected = s.selected := rfl

@[simp] theorem markRead_selected (s : RuleSet) : s.markRead.selected = s.selected := rfl

/-- Every rule but the selected one counts a batch. -/
theorem getElem?_countUnread (s : RuleSet) (batch : List Message) (i : Nat) :
    (s.countUnread batch).rules[i]?
      = if i = s.selected then s.rules[i]? else s.rules[i]?.map (·.countUnread batch) := by
  unfold countUnread
  rw [List.getElem?_mapIdx]
  split
  · cases s.rules[i]? <;> rfl
  · rfl

/-- Every rule is read. -/
theorem getElem?_markRead (s : RuleSet) (i : Nat) :
    s.markRead.rules[i]? = s.rules[i]?.map Rule.markRead := by
  unfold markRead
  rw [List.getElem?_map]

/-- An empty batch changes nothing. -/
@[simp] theorem countUnread_nil (s : RuleSet) : s.countUnread [] = s := by
  -- The rules are compared position by position, as the operation looks at positions.
  have hrules : (s.countUnread []).rules = s.rules := by
    apply List.ext_getElem?
    intro i
    rw [getElem?_countUnread]
    split
    · rfl
    · cases s.rules[i]? <;> rfl
  cases s
  simp only [countUnread] at hrules ⊢
  simp only [hrules]

/-! ## §6 What does not depend on the counts -/

section

variable {α : Type} (f : Rule → α)

/-- Reading the rule at a position changes nothing that does not depend on the counts. -/
theorem map_modify (hf : ∀ r : Rule, f r.markRead = f r) (rules : List Rule) (i : Nat) :
    (rules.modify i Rule.markRead).map f = rules.map f := by
  apply List.ext_getElem?
  intro j
  rw [List.getElem?_map, List.getElem?_map, List.getElem?_modify]
  cases rules[j]? with
  | none => rfl
  | some r =>
    split
    · exact congrArg some (hf r)
    · rfl

/-- Selecting changes nothing that does not depend on the counts. -/
theorem map_select (hf : ∀ r : Rule, f r.markRead = f r) (s : RuleSet) (index : Int) :
    (s.select index).1.rules.map f = s.rules.map f := by
  rw [select_rules]
  exact map_modify f hf _ _

/-- Counting a batch changes nothing that does not depend on the counts. -/
theorem map_countUnread (hf : ∀ (r : Rule) batch, f (r.countUnread batch) = f r) (s : RuleSet)
    (batch : List Message) : (s.countUnread batch).rules.map f = s.rules.map f := by
  apply List.ext_getElem?
  intro i
  rw [List.getElem?_map, List.getElem?_map, getElem?_countUnread]
  split
  · rfl
  · rw [Option.map_map]
    exact congrArg (fun g => s.rules[i]?.map g) (funext fun r => hf r batch)

/-- Reading all rules changes nothing that does not depend on the counts. -/
theorem map_markRead (hf : ∀ r : Rule, f r.markRead = f r) (s : RuleSet) :
    s.markRead.rules.map f = s.rules.map f := by
  unfold markRead
  rw [List.map_map]
  exact congrArg (fun g => s.rules.map g) (funext hf)

end

end RuleSet

end LogViewer
