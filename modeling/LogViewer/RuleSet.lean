import LogViewer.Index
import LogViewer.Rule

/-!
# Rule sets

An ordered list of rules of which one is selected. The first is the default rule: it can be
selected, but neither removed nor replaced. Operations take any whole number as an index and treat
one that names no rule as such.

## Main definitions

- `RuleSet`: the rules, the selection and what always holds of them
- `RuleSet.select`, `add`, `remove`, `replace`: changes
- `RuleSet.countUnread`, `RuleSet.markRead`: the unread counts
- `RuleSet.uncountable?`, `RuleSet.countBefore`: counting that breaks off
- `RuleSet.persistent`: the rules that are saved
-/

namespace LogViewer

/-- A rule with the criteria of the default rule that is not of this session only. -/
def Rule.IsDefault (r : Rule) : Prop :=
  r.criteria = .named defaultRuleName ∧ r.transient = false

namespace RuleSet

/-! ## §1 Lists that begin with the default rule -/

/-- The default rule comes first. -/
def StartsDefault (rules : List Rule) : Prop :=
  ∃ r rest, rules = r :: rest ∧ r.IsDefault

theorem StartsDefault.length_pos {rules : List Rule} (h : StartsDefault rules) :
    0 < rules.length := by
  obtain ⟨r, rest, rfl, _⟩ := h
  simp

theorem StartsDefault.modify {rules : List Rule} (h : StartsDefault rules) (i : Nat)
    {f : Rule → Rule} (hf : ∀ r, r.IsDefault → (f r).IsDefault) :
    StartsDefault (rules.modify i f) := by
  obtain ⟨r, rest, rfl, hr⟩ := h
  cases i with
  | zero => exact ⟨f r, rest, by simp, hf r hr⟩
  | succ i => exact ⟨r, rest.modify i f, by simp, hr⟩

theorem StartsDefault.map {rules : List Rule} (h : StartsDefault rules)
    {f : Rule → Rule} (hf : ∀ r, r.IsDefault → (f r).IsDefault) :
    StartsDefault (rules.map f) := by
  obtain ⟨r, rest, rfl, hr⟩ := h
  exact ⟨f r, rest.map f, rfl, hf r hr⟩

theorem StartsDefault.mapIdx {rules : List Rule} (h : StartsDefault rules)
    {f : Nat → Rule → Rule} (hf : ∀ i r, r.IsDefault → (f i r).IsDefault) :
    StartsDefault (rules.mapIdx f) := by
  obtain ⟨r, rest, rfl, hr⟩ := h
  exact ⟨f 0 r, rest.mapIdx fun i => f (i + 1), by simp [List.mapIdx_cons], hf 0 r hr⟩

theorem StartsDefault.append {rules : List Rule} (h : StartsDefault rules) (more : List Rule) :
    StartsDefault (rules ++ more) := by
  obtain ⟨r, rest, rfl, hr⟩ := h
  exact ⟨r, rest ++ more, rfl, hr⟩

theorem StartsDefault.set {rules : List Rule} (h : StartsDefault rules) {i : Nat} (hi : i ≠ 0)
    (r' : Rule) : StartsDefault (rules.set i r') := by
  obtain ⟨r, rest, rfl, hr⟩ := h
  cases i with
  | zero => exact absurd rfl hi
  | succ i => exact ⟨r, rest.set i r', rfl, hr⟩

theorem StartsDefault.eraseIdx {rules : List Rule} (h : StartsDefault rules) {i : Nat}
    (hi : i ≠ 0) : StartsDefault (rules.eraseIdx i) := by
  obtain ⟨r, rest, rfl, hr⟩ := h
  cases i with
  | zero => exact absurd rfl hi
  | succ i => exact ⟨r, rest.eraseIdx i, rfl, hr⟩

theorem markRead_isDefault (r : Rule) (h : r.IsDefault) : r.markRead.IsDefault := h

theorem countUnread_isDefault (batch : List Message) (r : Rule) (h : r.IsDefault) :
    (r.countUnread batch).IsDefault := h

end RuleSet

/-! ## §2 Looking up -/

/-- An ordered list of rules, one of them selected. -/
structure RuleSet where
  rules : List Rule
  selected : Nat
  selected_lt : selected < rules.length
  default_first : RuleSet.StartsDefault rules

namespace RuleSet

/-- The default rule followed by some rules, with the default rule selected. -/
def ofRules (rules : List Rule) : RuleSet :=
  ⟨defaultRule :: rules, 0, by simp, ⟨_, _, rfl, rfl, rfl⟩⟩

/-- The number of rules. -/
def size (s : RuleSet) : Nat := s.rules.length

/-- The position that an index names, if any. -/
def position? (s : RuleSet) (index : Int) : Option { i : Nat // i < s.rules.length } :=
  if h : 0 ≤ index ∧ index.toNat < s.rules.length then some ⟨index.toNat, h.2⟩ else none

/-- The selected rule. -/
def selectedRule (s : RuleSet) : Rule :=
  s.rules.get ⟨s.selected, s.selected_lt⟩

/-- The rule of an index, counted from the end if it is negative. -/
def get? (s : RuleSet) (index : Int) : Option Rule := itemAt? s.rules index

/-- The position of the session rule for an application. -/
def sessionRule? (s : RuleSet) (app : Text) : Option Nat :=
  s.rules.findIdx? fun r => r.transient && r.criteria.app == app

/-- The rules that are saved: all but the default rule and those of this session. -/
def persistent (s : RuleSet) : List Rule :=
  (s.rules.drop 1).filter fun r => !r.transient

/-! ## §3 Changes -/

/-- Selects a position, whose rule is then read. -/
def selectAt (s : RuleSet) (i : Nat) (h : i < s.rules.length) : RuleSet :=
  ⟨s.rules.modify i Rule.markRead, i, by simpa using h, s.default_first.modify i markRead_isDefault⟩

/-- Selects an index, or the default rule if it names no rule; gives the selected position. -/
def select (s : RuleSet) (index : Int) : RuleSet × Nat :=
  match s.position? index with
  | some ⟨i, h⟩ => (s.selectAt i h, i)
  | none => (s.selectAt 0 s.default_first.length_pos, 0)

/-- Adds a rule at the end; gives its position. -/
def add (s : RuleSet) (r : Rule) : RuleSet × Nat :=
  (⟨s.rules ++ [r], s.selected, by have := s.selected_lt; simp; omega,
    s.default_first.append [r]⟩, s.rules.length)

/-- Removes the rule of an index, unless it is the default rule or none; says whether it did. If it
was selected, the rule before it is selected, otherwise the same rule stays selected. -/
def remove (s : RuleSet) (index : Int) : RuleSet × Bool :=
  match s.position? index with
  | none => (s, false)
  | some ⟨i, h⟩ =>
    if hi : i = 0 then (s, false)
    else
      have fewer : (s.rules.eraseIdx i).length = s.rules.length - 1 := by
        simp [List.length_eraseIdx, h]
      have inside := s.selected_lt
      if _hs : i = s.selected then
        let rest : RuleSet :=
          ⟨s.rules.eraseIdx i, i - 1, by omega, s.default_first.eraseIdx hi⟩
        (rest.selectAt (i - 1) rest.selected_lt, true)
      else if hs : i < s.selected then
        (⟨s.rules.eraseIdx i, s.selected - 1, by omega,
          s.default_first.eraseIdx hi⟩, true)
      else
        (⟨s.rules.eraseIdx i, s.selected, by omega,
          s.default_first.eraseIdx hi⟩, true)

/-- Puts a rule in place of the one of an index, unless that is the default rule or none; says
whether it did. -/
def replace (s : RuleSet) (index : Int) (r : Rule) : RuleSet × Bool :=
  match s.position? index with
  | none => (s, false)
  | some ⟨i, _⟩ =>
    if hi : i = 0 then (s, false)
    else
      (⟨s.rules.set i r, s.selected, by simpa using s.selected_lt,
        s.default_first.set hi r⟩, true)

/-! ## §4 Unread counts -/

/-- Counts a batch for every rule but the selected one. -/
def countUnread (s : RuleSet) (batch : List Message) : RuleSet :=
  ⟨s.rules.mapIdx fun i r => if i = s.selected then r else r.countUnread batch, s.selected,
    by simpa using s.selected_lt,
    s.default_first.mapIdx fun i r h => by
      split
      · exact h
      · exact countUnread_isDefault batch r h⟩

/-- The first rule, by its position, that cannot be counted because a test breaks off, and why. The
selected rule is not counted. -/
def uncountable? (s : RuleSet) (batch : List Message) : Option (Nat × Text.TooManyDigits) :=
  s.rules.zipIdx.findSome? fun (r, i) =>
    if i = s.selected then none else (r.testFault? batch).map fun e => (i, e)

/-- Counts a batch for the rules before a position. -/
def countBefore (s : RuleSet) (limit : Nat) (batch : List Message) : RuleSet :=
  ⟨s.rules.mapIdx fun i r => if i = s.selected ∨ limit ≤ i then r else r.countUnread batch,
    s.selected, by simpa using s.selected_lt,
    s.default_first.mapIdx fun i r h => by
      split
      · exact h
      · exact countUnread_isDefault batch r h⟩

/-- Nothing is unread for any rule. -/
def markRead (s : RuleSet) : RuleSet :=
  ⟨s.rules.map Rule.markRead, s.selected, by simpa using s.selected_lt,
    s.default_first.map markRead_isDefault⟩

end RuleSet

end LogViewer
