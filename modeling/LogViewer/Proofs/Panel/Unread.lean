import LogViewer.Proofs.Panel.Run
import Mathlib.Data.List.Induction

/-!
# Unread counts over whole runs

A rule counts the messages that it matches while it is not looked at. Operations move rules about,
so the history of a rule is followed backwards from the position where it stands now. The count is
then the number of matching messages that came in since the rule was last seen: since it was put
into the set, since the last new source, or since it was selected.

## Main definitions

- `Panel.Op.origin`, `Panel.origin`: where a rule stood before an operation and before a run
- `Panel.Seen`, `Panel.Since`: when a rule has been seen, and what happened since

## Main statements

- `Panel.getElem?_step`: what one operation does to the rule at a position
- `Panel.selectedRead_run`: the selected rule has nothing unread
- `Panel.exists_since`: every rule has been seen at some time
- `Panel.unread_run`: the unread counts after a run
-/

namespace LogViewer

/-- The selected rule has nothing unread. -/
def RuleSet.SelectedRead (s : RuleSet) : Prop :=
  ∀ r, s.rules[s.selected]? = some r → r.unread = 0

namespace Panel

/-! ## §1 One operation -/

/-- The messages that come in with an operation. -/
def Op.received : Op → List Message
  | .receive batch => batch
  | _ => []

/-- The rules that an operation puts in have nothing unread. -/
def Op.Fresh : Op → Prop
  | .add r => r.unread = 0
  | .edit _ r => r.unread = 0
  | _ => True

/-- Where the rule that stands at a position after an operation stood before it; a rule that the
operation has put there stood nowhere. -/
def Op.origin (p : Panel) : Op → Nat → Option Nat
  | .add _, i => if i < p.rules.rules.length then some i else none
  | .selectApp _, i => if i < p.rules.rules.length then some i else none
  | .remove index, i =>
    some (if 0 < index ∧ index < p.rules.rules.length ∧ index ≤ i then i + 1 else i)
  | .edit index _, i => if 0 < index ∧ index = i then none else some i
  | _, i => some i

/-- What an operation does to a rule that is not selected. -/
def Op.count : Op → Rule → Rule
  | .receive batch, r => r.countUnread batch
  | .resetSource, r => r.markRead
  | _, r => r

end Panel

namespace RuleSet

/-- In a set whose selected rule is read, reading that rule changes nothing. -/
theorem SelectedRead.getElem? {s : RuleSet} (h : s.SelectedRead) (i : Nat) :
    s.rules[i]? = s.rules[i]?.map fun r => if i = s.selected then r.markRead else r := by
  cases hr : s.rules[i]? with
  | none => rfl
  | some r =>
    by_cases hi : i = s.selected
    · subst hi
      simp [Rule.markRead_of_unread_eq_zero (h r hr)]
    · simp [hi]

/-- The rules after a removal. -/
theorem SelectedRead.getElem?_remove {s : RuleSet} (h : s.SelectedRead) (index : Int) (i : Nat) :
    (s.remove index).1.rules[i]?
      = (s.rules[if 0 < index ∧ index < s.rules.length ∧ index ≤ i then i + 1 else i]?).map
          fun r => if i = (s.remove index).1.selected then r.markRead else r := by
  rcases s.remove_cases index with ⟨hsame, hout⟩ | ⟨k, rfl, hpos, hlt, _, hselected, hrules⟩
  · have hnot : ¬ (0 < index ∧ index < s.rules.length ∧ index ≤ i) := by
      rintro ⟨hpos, hlt, _⟩
      have := hout index.toNat (by omega)
      omega
    rw [hsame, if_neg hnot]
    exact h.getElem? i
  -- Behind the removed rule every position was one higher.
  have hmoved : (if 0 < (k : Int) ∧ (k : Int) < s.rules.length ∧ (k : Int) ≤ i then i + 1 else i)
      = if i < k then i else i + 1 := by
    split <;> split <;> omega
  have herase : (s.rules.eraseIdx k)[i]? = s.rules[if i < k then i else i + 1]? := by
    rw [List.getElem?_eraseIdx]
    split <;> rfl
  rw [hmoved, hrules, hselected]
  by_cases hk : k = s.selected
  · -- The rule before the removed one is selected and read.
    have hnow : (if s.selected < k then s.selected else s.selected - 1) = k - 1 := by
      rw [if_neg (by omega), hk]
    rw [if_pos hk, hnow, List.getElem?_modify, herase]
    cases s.rules[if i < k then i else i + 1]? with
    | none => rfl
    | some r => simp [eq_comm]
  · -- The same rule stays selected, though it may move.
    rw [if_neg hk, herase]
    refine (h.getElem? _).trans ?_
    have hsame : (if i < k then i else i + 1) = s.selected
        ↔ i = if s.selected < k then s.selected else s.selected - 1 := by
      split <;> split <;> omega
    simp only [hsame]

/-- The rules after a replacement, apart from the new one. -/
theorem SelectedRead.getElem?_replace {s : RuleSet} (h : s.SelectedRead) (index : Int) (r : Rule)
    {i : Nat} (hi : ¬ (0 < index ∧ index = i)) :
    (s.replace index r).1.rules[i]?
      = s.rules[i]?.map fun r' => if i = (s.replace index r).1.selected then r'.markRead else r' := by
  rcases s.replace_cases index r with ⟨hsame, _⟩ | ⟨k, rfl, hpos, _, _, hselected, hrules⟩
  · rw [hsame]
    exact h.getElem? i
  · have hne : k ≠ i := by omega
    rw [hrules, hselected, List.getElem?_set_ne hne]
    exact h.getElem? i

end RuleSet

namespace Panel

/-- What an operation does to the rule that stands at a position after it: the selected rule is
read, and any other counts what comes in. -/
theorem getElem?_step {p : Panel} (hread : p.rules.SelectedRead) {op : Op} {i j : Nat}
    (horigin : op.origin p i = some j) :
    (p.step op).rules.rules[i]?
      = p.rules.rules[j]?.map fun r =>
          if i = (p.step op).rules.selected then r.markRead else op.count r := by
  cases op with
  | receive batch =>
    cases horigin
    have hrules : (p.step (.receive batch)).rules = p.rules.countUnread batch := rules_receive p batch
    rw [hrules, RuleSet.getElem?_countUnread]
    by_cases hi : i = p.rules.selected
    · -- The selected rule counts nothing, and it is read already.
      rw [if_pos hi]
      simpa [hi] using hread.getElem? i
    · simp [hi, Op.count]
  | clear =>
    cases horigin
    exact hread.getElem? i
  | resetSource =>
    cases horigin
    have hrules : (p.step .resetSource).rules = p.rules.markRead := rfl
    rw [hrules, RuleSet.getElem?_markRead]
    simp only [Op.count, ite_self]
  | setMaximum n =>
    cases horigin
    rw [rules_setMaximum]
    exact hread.getElem? i
  | setQuery query level =>
    cases horigin
    rw [rules_setQuery]
    exact hread.getElem? i
  | select index =>
    cases horigin
    have hrules : (p.step (.select index)).rules = (p.rules.select index).1 := rfl
    rw [hrules, RuleSet.getElem?_select]
    split <;> simp [Op.count]
  | add r =>
    -- What has an origin is not the new rule.
    obtain ⟨hi, rfl⟩ : i < p.rules.rules.length ∧ i = j := by
      simpa [Op.origin] using horigin
    have hrules : (p.step (.add r)).rules = (p.rules.add r).1 := rfl
    rw [hrules, RuleSet.add_rules, RuleSet.add_selected, List.getElem?_append_left hi]
    exact hread.getElem? i
  | remove index =>
    cases horigin
    have hrules : (p.step (.remove index)).rules = (p.rules.remove index).1 := rules_remove p index
    rw [hrules]
    exact hread.getElem?_remove index i
  | edit index r =>
    obtain ⟨hi, rfl⟩ : ¬ (0 < index ∧ index = i) ∧ i = j := by
      simpa only [Op.origin, ite_eq_iff, reduceCtorEq, and_false, false_or, Option.some.injEq]
        using horigin
    have hrules : (p.step (.edit index r)).rules = (p.rules.replace index r).1 :=
      rules_edit p index r
    rw [hrules]
    exact hread.getElem?_replace index r hi
  | selectApp app =>
    obtain ⟨hi, rfl⟩ : i < p.rules.rules.length ∧ i = j := by
      simpa [Op.origin] using horigin
    rcases step_selectApp_cases p app with hstep | ⟨index, hstep⟩ | ⟨r, _, hstep⟩
    · rw [hstep]
      exact hread.getElem? i
    · rw [hstep, rules_select, RuleSet.getElem?_select]
      split <;> simp [Op.count]
    · rw [hstep, rules_select, RuleSet.getElem?_select, RuleSet.add_rules,
        List.getElem?_append_left hi]
      split <;> simp [Op.count]

/-- A rule that an operation has put in has nothing unread. -/
theorem unread_of_origin_eq_none {p : Panel} {op : Op} (hfresh : op.Fresh) {i : Nat} {r : Rule}
    (horigin : op.origin p i = none) (hr : (p.step op).rules.rules[i]? = some r) :
    r.unread = 0 := by
  cases op with
  | add r' =>
    have hi : p.rules.rules.length ≤ i := by simpa [Op.origin] using horigin
    -- Behind the old rules there is only the new one.
    have hadded : (p.rules.rules ++ [r'])[i]? = some r := hr
    rw [List.getElem?_append_right hi] at hadded
    have heq : r = r' := List.mem_singleton.1 (List.mem_of_getElem? hadded)
    exact heq ▸ hfresh
  | edit index r' =>
    obtain ⟨hpos, rfl⟩ : 0 < index ∧ index = i := by simpa [Op.origin] using horigin
    have hrules : (p.step (.edit i r')).rules = (p.rules.replace i r').1 := rules_edit p i r'
    rw [hrules] at hr
    rcases p.rules.replace_cases i r' with ⟨hsame, hout⟩ | ⟨k, hk, _, hlt, _, _, hset⟩
    · -- A position that is refused is the default rule's or none.
      rw [hsame] at hr
      have hlt : i < p.rules.rules.length := (List.getElem?_eq_some_iff.1 hr).1
      have := hout i rfl
      omega
    · obtain rfl : i = k := by omega
      rw [hset, List.getElem?_set_self hlt] at hr
      cases hr
      exact hfresh
  | selectApp app =>
    have hi : p.rules.rules.length ≤ i := by simpa [Op.origin] using horigin
    rcases step_selectApp_cases p app with hstep | ⟨index, hstep⟩ | ⟨r', hr', hstep⟩
    · rw [hstep, List.getElem?_eq_none hi] at hr
      cases hr
    · rw [hstep, rules_select, RuleSet.getElem?_select, List.getElem?_eq_none hi] at hr
      simp at hr
    · rw [hstep, rules_select, RuleSet.getElem?_select, RuleSet.add_rules,
        List.getElem?_append_right hi] at hr
      split at hr
      · obtain ⟨r'', _, rfl⟩ := Option.map_eq_some_iff.1 hr
        rfl
      · have heq : r = r' := List.mem_singleton.1 (List.mem_of_getElem? hr)
        exact heq ▸ hr'
  | _ => cases horigin

/-- The selected rule stays read. -/
theorem selectedRead_step {p : Panel} (hread : p.rules.SelectedRead) {op : Op} (hfresh : op.Fresh) :
    (p.step op).rules.SelectedRead := by
  intro r hr
  -- The rule that is selected afterwards has just been put in, or it is read by the operation.
  cases horigin : op.origin p (p.step op).rules.selected with
  | none => exact unread_of_origin_eq_none hfresh horigin hr
  | some j =>
    rw [getElem?_step hread horigin] at hr
    simp only [if_true] at hr
    obtain ⟨r', _, rfl⟩ := Option.map_eq_some_iff.1 hr
    rfl

/-! ## §2 Whole runs -/

/-- A panel that has been started has nothing unread. -/
theorem unread_of_opens {p : Panel} (h : Opens p) : ∀ r ∈ p.rules.rules, r.unread = 0 := by
  intro r hr
  obtain ⟨c, hbuild⟩ := build_of_opens h r hr
  exact Rule.unread_of_build hbuild

/-- The selected rule has nothing unread after any run. -/
theorem selectedRead_run {p : Panel} (hp : Opens p) {ops : List Op} (hfresh : ∀ op ∈ ops, op.Fresh) :
    (p.run ops).rules.SelectedRead := by
  -- The invariant is carried from the start to the last operation.
  induction ops using List.reverseRecOn with
  | nil =>
    intro r hr
    exact unread_of_opens hp r (List.mem_of_getElem? hr)
  | append_singleton ops op ih =>
    rw [run_concat]
    have hbefore : ∀ op ∈ ops, op.Fresh := fun op hop => hfresh op (List.mem_append_left _ hop)
    exact selectedRead_step (ih hbefore) (hfresh op (by simp))

/-- Where the rule that stands at a position after some operations stood before them. -/
def origin (p : Panel) : List Op → Nat → Option Nat
  | [], i => some i
  | op :: ops, i => (origin (p.step op) ops i).bind (op.origin p)

/-- A rule is followed backwards through the last operation first. -/
theorem origin_concat (p : Panel) (ops : List Op) (op : Op) (i : Nat) :
    origin p (ops ++ [op]) i = (op.origin (p.run ops) i).bind (origin p ops) := by
  induction ops generalizing p with
  | nil =>
    cases h : op.origin p i <;> simp [origin, h]
  | cons first ops ih =>
    show (origin (p.step first) (ops ++ [op]) i).bind (first.origin p) = _
    rw [ih (p.step first)]
    exact Option.bind_assoc ..

/-! ## §3 When a rule has been seen -/

/-- After a run, the rule at a position has just been seen: it is selected, it has been in the set
from the start of the run, a new source has begun, or it has just been put in. -/
def Seen (p : Panel) (ops : List Op) (i : Nat) : Prop :=
  i = (p.run ops).rules.selected ∨ ops = [] ∨
    ∃ before op, ops = before ++ [op] ∧ (op = .resetSource ∨ op.origin (p.run before) i = none)

/-- A run falls into an earlier part, at the end of which the rule that stands at a position after
the whole run has been seen, and a later part, during which it has not been seen again. -/
structure Since (p : Panel) (earlier later : List Op) (i : Nat) : Prop where
  seen : ∃ j, origin (p.run earlier) later i = some j ∧ Seen p earlier j
  unseen : ∀ mid rest, later = mid ++ rest → mid ≠ [] →
    ∀ j, origin (p.run (earlier ++ mid)) rest i = some j → ¬ Seen p (earlier ++ mid) j

/-- A rule that has just been seen has nothing unread. -/
theorem unread_of_seen {p : Panel} (hp : Opens p) {ops : List Op} (hfresh : ∀ op ∈ ops, op.Fresh)
    {i : Nat} {r : Rule} (hseen : Seen p ops i) (hr : (p.run ops).rules.rules[i]? = some r) :
    r.unread = 0 := by
  rcases hseen with rfl | rfl | ⟨before, op, rfl, rfl | hinserted⟩
  · exact selectedRead_run hp hfresh r hr
  · exact unread_of_opens hp r (List.mem_of_getElem? hr)
  · rw [run_concat] at hr
    have hmarked : (p.run before).rules.markRead.rules[i]? = some r := hr
    rw [RuleSet.getElem?_markRead] at hmarked
    obtain ⟨r', _, rfl⟩ := Option.map_eq_some_iff.1 hmarked
    rfl
  · rw [run_concat] at hr
    exact unread_of_origin_eq_none (hfresh op (by simp)) hinserted hr

/-- An operation that does not let a rule be seen belongs to what happened since. -/
theorem Since.concat {p : Panel} {earlier later : List Op} {op : Op} {i k : Nat}
    (h : Since p earlier later k) (horigin : op.origin (p.run (earlier ++ later)) i = some k)
    (hunseen : ¬ Seen p (earlier ++ (later ++ [op])) i) : Since p earlier (later ++ [op]) i := by
  obtain ⟨⟨j, hj, hseen⟩, hrest⟩ := h
  refine ⟨⟨j, ?_, hseen⟩, ?_⟩
  · rw [origin_concat, ← run_append, horigin]
    exact hj
  · intro mid rest hsplit hmid j' hj'
    -- A moment in the later part is its end, or it comes before the last operation.
    rcases List.eq_nil_or_concat rest with rfl | ⟨rest, op', rfl⟩
    · -- The whole of the later part has passed.
      cases hj'
      rw [List.append_nil] at hsplit
      exact hsplit ▸ hunseen
    · rw [List.concat_eq_append, ← List.append_assoc] at hsplit
      obtain ⟨rfl, hop⟩ := List.append_inj' hsplit rfl
      cases hop
      rw [List.concat_eq_append, origin_concat, ← run_append, List.append_assoc, horigin] at hj'
      exact hrest mid rest rfl hmid j' hj'

/-- What happened since, apart from its last operation. -/
theorem Since.of_concat {p : Panel} {earlier later : List Op} {op : Op} {i : Nat}
    (h : Since p earlier (later ++ [op]) i) :
    ¬ Seen p (earlier ++ later ++ [op]) i ∧
      ∃ k, op.origin (p.run (earlier ++ later)) i = some k ∧ Since p earlier later k := by
  obtain ⟨⟨j, hj, hseen⟩, hrest⟩ := h
  rw [origin_concat, ← run_append] at hj
  obtain ⟨k, horigin, hj⟩ := Option.bind_eq_some_iff.1 hj
  refine ⟨?_, k, horigin, ⟨j, hj, hseen⟩, ?_⟩
  · rw [List.append_assoc]
    exact hrest (later ++ [op]) [] (by simp) (by simp) i rfl
  · rintro mid rest rfl hmid j' hj'
    apply hrest mid (rest ++ [op]) (by simp) hmid j'
    rw [origin_concat, ← run_append, List.append_assoc, horigin]
    exact hj'

/-- Every rule has been seen at some time, so there is a latest time. -/
theorem exists_since (p : Panel) (ops : List Op) (i : Nat) :
    ∃ earlier later, ops = earlier ++ later ∧ Since p earlier later i := by
  -- A rule that has just been seen has seen nothing since.
  have hnow : ∀ (ops : List Op) (i : Nat), Seen p ops i → Since p ops [] i := by
    intro ops i hseen
    refine ⟨⟨i, rfl, hseen⟩, ?_⟩
    intro mid rest hsplit hmid
    exact absurd (List.append_eq_nil_iff.1 hsplit.symm).1 hmid
  -- Going back, each operation has let the rule be seen or leads to where the rule stood before.
  induction ops using List.reverseRecOn generalizing i with
  | nil => exact ⟨[], [], rfl, hnow [] i (.inr (.inl rfl))⟩
  | append_singleton ops op ih =>
    by_cases hseen : Seen p (ops ++ [op]) i
    · exact ⟨ops ++ [op], [], by simp, hnow _ i hseen⟩
    · cases horigin : op.origin (p.run ops) i with
      | none => exact absurd (.inr (.inr ⟨ops, op, rfl, .inr horigin⟩)) hseen
      | some k =>
        obtain ⟨earlier, later, rfl, hsince⟩ := ih k
        rw [List.append_assoc] at hseen ⊢
        exact ⟨earlier, later ++ [op], rfl, hsince.concat horigin hseen⟩

/-! ## §4 The counts -/

/-- Apart from a new source, operations only count what comes in. -/
theorem Op.count_eq {op : Op} (h : op ≠ .resetSource) (r : Rule) :
    op.count r = r.countUnread op.received := by
  cases op with
  | resetSource => exact absurd rfl h
  | _ => rfl

/-- A rule has counted what it matches of what came in since it was seen. -/
theorem unread_of_since {p : Panel} (hp : Opens p) {earlier later : List Op}
    (hfresh : ∀ op ∈ earlier ++ later, op.Fresh) {i : Nat} (h : Since p earlier later i) {r : Rule}
    (hr : (p.run (earlier ++ later)).rules.rules[i]? = some r) :
    r.unread = (later.flatMap Op.received).countP r.matches := by
  -- Induction on what happened since, from its end: each operation has added what came in with it.
  induction later using List.reverseRecOn generalizing i r with
  | nil =>
    obtain ⟨⟨j, hj, hseen⟩, _⟩ := h
    cases hj
    rw [List.append_nil] at hr hfresh
    rw [unread_of_seen hp hfresh hseen hr]
    rfl
  | append_singleton later op ih =>
    rw [← List.append_assoc] at hr hfresh
    have hbefore : ∀ op ∈ earlier ++ later, op.Fresh :=
      fun op hop => hfresh op (List.mem_append_left _ hop)
    obtain ⟨hunseen, k, horigin, hsince⟩ := h.of_concat
    have hselected : i ≠ ((p.run (earlier ++ later)).step op).rules.selected := by
      intro hi
      exact hunseen (.inl (by rw [run_concat]; exact hi))
    have hsource : op ≠ .resetSource := by
      intro hop
      exact hunseen (.inr (.inr ⟨_, op, rfl, .inl hop⟩))
    rw [run_concat, getElem?_step (selectedRead_run hp hbefore) horigin] at hr
    obtain ⟨r', hr', rfl⟩ := Option.map_eq_some_iff.1 hr
    rw [if_neg hselected, Op.count_eq hsource, Rule.unread_countUnread, Rule.matches_countUnread,
      ih hbefore hsince hr']
    simp [List.countP_append]

/-- After any run of operations whose rules are new, the selected rule has nothing unread, and any
other has counted the messages that it matches among all that came in since it was last seen: put
into the set, selected, or emptied by a new source. An operation that neither brings messages in nor
begins a new source leaves the counts of all rules alone that it does not remove, replace or newly
select. -/
theorem unread_run {p : Panel} (hp : Opens p) {ops : List Op} (hfresh : ∀ op ∈ ops, op.Fresh)
    {i : Nat} {r : Rule} (hr : (p.run ops).rules.rules[i]? = some r) :
    (i = (p.run ops).rules.selected → r.unread = 0) ∧
    (∃ earlier later, ops = earlier ++ later ∧ Since p earlier later i) ∧
    (∀ earlier later, ops = earlier ++ later → Since p earlier later i →
      r.unread = (later.flatMap Op.received).countP r.matches) ∧
    (∀ op j, op.received = [] → op ≠ .resetSource → op.origin (p.run ops) j = some i →
      (j = (p.run (ops ++ [op])).rules.selected → i = (p.run ops).rules.selected) →
      (p.run (ops ++ [op])).rules.rules[j]? = some r) := by
  refine ⟨?_, exists_since p ops i, ?_, ?_⟩
  · rintro rfl
    exact selectedRead_run hp hfresh r hr
  · rintro earlier later rfl hsince
    exact unread_of_since hp hfresh hsince hr
  · intro op j hquiet hsource horigin hselected
    have hread := selectedRead_run hp hfresh
    rw [run_concat] at hselected ⊢
    rw [getElem?_step hread horigin, hr, Option.map_some, Op.count_eq hsource, hquiet,
      Rule.countUnread_nil]
    split
    · next hj =>
      -- The rule was selected before, and so it was read.
      have hi := hselected hj
      subst hi
      rw [Rule.markRead_of_unread_eq_zero (hread r hr)]
    · rfl

/-- A rule for errors that has been selected counts the errors that come in after that. -/
theorem unread_run_errors :
    ∃ (p : Panel) (rule r : Rule) (info error : Message) (ops : List Op),
      (Panel.start 2 (.memory "") .empty).result = .ok p ∧
      rule.criteria = { Criteria.named "errors" with level := .error } ∧
      ops = [.add rule, .receive [info, error], .select 1, .select 0,
        .receive [error, info, error], .clear] ∧
      (∀ op ∈ ops, op.Fresh) ∧ (p.run ops).rules.rules[1]? = some r ∧ r.unread = 2 ∧
      ∃ earlier later, ops = earlier ++ later ∧ Since p earlier later 1 ∧
        (later.flatMap Op.received).countP r.matches = 2 := by
  let rule : Rule :=
    ⟨{ Criteria.named "errors" with level := .error }, ⟨none, none, none⟩, false, 0, rfl⟩
  let info : Message := ⟨"", 1, "", "", .info, "", none⟩
  let error : Message := ⟨"", 1, "", "", .error, "", none⟩
  let ops : List Op :=
    [.add rule, .receive [info, error], .select 1, .select 0, .receive [error, info, error], .clear]
  let p : Panel :=
    ⟨.empty 2 (by decide), 2, .ofRules [], "", .verbose, [openRule], .memory "", .empty, none, []⟩
  have hstart : (Panel.start 2 (.memory "") .empty).result = .ok p := rfl
  have hfresh : ∀ op ∈ ops, op.Fresh := by simp [ops, Op.Fresh, rule]
  have hcount : ((p.run ops).rules.rules[1]?).map (·.unread) = some 2 := by decide +kernel
  obtain ⟨r, hr, hunread⟩ := Option.map_eq_some_iff.1 hcount
  obtain ⟨_, ⟨earlier, later, hsplit, hsince⟩, hexact, _⟩ :=
    unread_run (.start hstart) hfresh hr
  exact ⟨p, rule, r, info, error, ops, hstart, rfl, rfl, hfresh, hr, hunread, earlier, later, hsplit,
    hsince, (hexact earlier later hsplit hsince).symm.trans hunread⟩

end Panel

end LogViewer
