import LogViewer.Panel
import LogViewer.Proofs.Outcomes

/-!
# Tests that break off

A rule that asks for a process number compares it with the written number of a message. A number
with too many digits cannot be written, and then the test breaks off, and with it what the test is
made for: the counting of a batch or the finding of the visible messages. Where all numbers can be
written no test breaks off, and where a test comes to an end it says what the rule says.

## Main definitions

- `Message.Writable`: the process number of a message can be written

## Main statements

- `Rule.matches_of_test`, `Rule.test_of_writable`: the test and the rule
- `Panel.visible_of_visible?`, `Panel.visible?_of_writable`: the visible messages, found one by one
- `Panel.take_of_writable`: a batch that is taken in
-/

namespace LogViewer

/-! ## §1 Process numbers -/

namespace Message

variable {m : Message}

/-- The process number can be written. -/
def Writable (m : Message) : Prop := ∃ text, m.pidText? = .ok text

/-- A number that can be written is written with its decimal digits. -/
theorem pidText_of_pidText? {text : Text} (h : m.pidText? = .ok text) : m.pidText = text := by
  obtain ⟨chars, hwrite, rfl⟩ := map_eq_ok_iff.1 h
  have hnat : ∀ {n chars}, Text.writeNat n = .ok chars → chars = Text.decimal n := by
    intro n chars hn
    unfold Text.writeNat at hn
    dsimp only at hn
    split at hn
    · cases hn
      rfl
    · cases hn
  unfold pidText
  unfold Text.writeInt at hwrite
  cases hpid : m.pid with
  | ofNat n =>
    rw [hpid] at hwrite
    rw [hnat hwrite]
    exact Text.ext (Text.toList_toString n)
  | negSucc n =>
    rw [hpid] at hwrite
    obtain ⟨digits, hdigits, rfl⟩ := map_eq_ok_iff.1 hwrite
    have hsign : toString (Int.negSucc n) = "-" ++ toString (n + 1) := rfl
    rw [hnat hdigits, ← Text.toList_toString, hsign]
    exact Text.ext (by simp)

theorem Writable.pidText? (h : m.Writable) : m.pidText? = .ok m.pidText := by
  obtain ⟨text, htext⟩ := h
  rw [htext, pidText_of_pidText? htext]

end Message

/-! ## §2 Tests -/

namespace Rule

variable {r : Rule} {m : Message}

/-- A test breaks off exactly where the level lets the message through, a process number is asked
for, and that of the message cannot be written. -/
theorem test_eq (r : Rule) (m : Message) : r.test m =
    if m.level < r.criteria.level then .ok false
    else if (Text.trimmed r.criteria.pid).isEmpty then .ok (r.matches m)
    else m.pidText?.map fun _ => r.matches m := by
  unfold test «matches» pidMatches
  by_cases hlevel : m.level < r.criteria.level
  · simp only [hlevel, if_true]
    rfl
  have hle : r.criteria.level ≤ m.level := Nat.not_lt.1 hlevel
  simp only [hlevel, if_false, hle, decide_true, Bool.true_and]
  cases (Text.trimmed r.criteria.pid).isEmpty with
  | true => simp [pure, Except.pure]
  | false =>
    simp only [Bool.not_false, if_true, Bool.false_or]
    cases hwritten : m.pidText? with
    | error e => rfl
    | ok text =>
      rw [Message.pidText_of_pidText? hwritten]
      by_cases hasked : Text.trimmed r.criteria.pid = text
      · simp [hasked, bind, Except.bind, Except.map, pure, Except.pure]
      · simp [hasked, bind, Except.bind, Except.map, pure, Except.pure]

/-- A rule lets no message through that is below its level. -/
theorem matches_of_lt (h : m.level < r.criteria.level) : r.matches m = false := by
  have hlevel : ¬ r.criteria.level ≤ m.level := Nat.not_le.2 h
  simp [«matches», hlevel]

/-- A test that comes to an end says what the rule says. -/
theorem matches_of_test {answer : Bool} (h : r.test m = .ok answer) : r.matches m = answer := by
  rw [test_eq] at h
  split at h
  · next hlevel =>
    cases h
    exact matches_of_lt hlevel
  · split at h
    · exact Except.ok.inj h
    · obtain ⟨_, _, hanswer⟩ := map_eq_ok_iff.1 h
      exact hanswer

/-- A test comes to an end where the process number can be written. -/
theorem test_of_writable (r : Rule) (h : m.Writable) : r.test m = .ok (r.matches m) := by
  rw [test_eq]
  split
  · next hlevel => rw [matches_of_lt hlevel]
  · split
    · rfl
    · rw [h.pidText?]
      rfl

/-- Tests that come to an end say whether all the rules let the message through. -/
theorem all_of_testAll {rules : List Rule} {answer : Bool} (h : testAll m rules = .ok answer) :
    (rules.all fun r => r.matches m) = answer := by
  induction rules with
  | nil =>
    cases h
    rfl
  | cons r rules ih =>
    obtain ⟨passes, htest, h⟩ := bind_eq_ok_iff.1 h
    rw [List.all_cons, matches_of_test htest]
    cases passes with
    | true => exact ih h
    | false =>
      cases h
      rfl

theorem testAll_of_writable (rules : List Rule) (h : m.Writable) :
    testAll m rules = .ok (rules.all fun r => r.matches m) := by
  induction rules with
  | nil => rfl
  | cons r rules ih =>
    rw [testAll, test_of_writable r h, List.all_cons]
    cases r.matches m with
    | true => exact ih
    | false => rfl

/-- The messages that are found are those that all the rules let through. -/
theorem filter_of_passing {rules : List Rule} {ms found : List Message}
    (h : passing rules ms = .ok found) : (ms.filter fun m => rules.all fun r => r.matches m) = found := by
  induction ms generalizing found with
  | nil =>
    cases h
    rfl
  | cons m ms ih =>
    obtain ⟨passes, htest, h⟩ := bind_eq_ok_iff.1 h
    obtain ⟨rest, hrest, hfound⟩ := bind_eq_ok_iff.1 h
    cases hfound
    rw [List.filter_cons, all_of_testAll htest, ih hrest]

theorem passing_of_writable (rules : List Rule) {ms : List Message} (h : ∀ m ∈ ms, m.Writable) :
    passing rules ms = .ok (ms.filter fun m => rules.all fun r => r.matches m) := by
  induction ms with
  | nil => rfl
  | cons m ms ih =>
    obtain ⟨hfirst, hrest⟩ := List.forall_mem_cons.1 h
    rw [passing, testAll_of_writable rules hfirst, ih hrest, List.filter_cons]
    rfl

/-- A batch whose process numbers can be written can be tested. -/
theorem testFault?_of_writable (r : Rule) {batch : List Message} (h : ∀ m ∈ batch, m.Writable) :
    r.testFault? batch = none := by
  unfold testFault?
  rw [List.findSome?_eq_none_iff]
  intro m hm
  rw [test_of_writable r (h m hm)]

end Rule

/-! ## §3 Panels -/

namespace Panel

variable {p : Panel}

/-- The visible messages that are found are the visible messages. -/
theorem visible_of_visible? {found : List Message} (h : p.visible? = .ok found) : p.visible = found :=
  Rule.filter_of_passing h

/-- They are found where all process numbers can be written. -/
theorem visible?_of_writable (h : ∀ m ∈ p.store.messages, m.Writable) : p.visible? = .ok p.visible :=
  Rule.passing_of_writable _ h

/-- A batch whose process numbers can be written is taken in. -/
theorem take_of_writable (p : Panel) {batch : List Message} (h : ∀ m ∈ batch, m.Writable) :
    p.take batch = (p.receive batch, .ok ()) := by
  have hnone : p.rules.uncountable? batch = none := by
    unfold RuleSet.uncountable?
    rw [List.findSome?_eq_none_iff]
    rintro ⟨r, i⟩ -
    dsimp only
    rw [r.testFault?_of_writable h]
    split <;> rfl
  unfold take
  rw [hnone]

end Panel

end LogViewer
