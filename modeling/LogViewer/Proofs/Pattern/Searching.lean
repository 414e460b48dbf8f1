import LogViewer.Proofs.Pattern.Ordinary
import Mathlib.Data.List.Forall2
import Mathlib.Data.List.Infix

/-!
# Searching for ordinary characters

A pattern of ordinary characters is a row of tests, one for each character. Matching it from a
position consumes one character for each test, so it occurs in a text exactly when the tests hold,
one after the other, of some stretch of the text.

## Main definitions

- `testRow`: the tree of a row of tests
- `Passes`: tests that hold of characters one by one
- `ordinaryTest`: the test for an ordinary character

## Main statements

- `occursIn_testRow_iff`: searching for a row of tests
- `exists_compile_ordinary`: searching for a pattern of ordinary characters
- `occursIn_self`: such a pattern occurs in itself
-/

namespace LogViewer.Pattern

/-! ## §1 Rows of tests -/

/-- The tree of a row of tests. -/
def testRow (tests : List CharTest) : Tree Step := .ofList (tests.map fun t => .leaf (.char t))

/-- The tests hold of the characters one by one. -/
def Passes (tests : List CharTest) (cs : List CodePoint) : Prop :=
  List.Forall₂ (fun t c => t.holds c.toNat = true) tests cs

@[simp] theorem passes_nil_iff {cs : List CodePoint} : Passes [] cs ↔ cs = [] := by
  simp [Passes]

@[simp] theorem passes_cons_iff {t : CharTest} {tests : List CharTest} {cs : List CodePoint} :
    Passes (t :: tests) cs
      ↔ ∃ c rest, t.holds c.toNat = true ∧ Passes tests rest ∧ cs = c :: rest := by
  simp [Passes, List.forall₂_cons_left_iff]

section Run

variable {text : Subject} {k : Continuation} {q : Progress}

/-- One test takes the character at the position and leaves the rest of the row. -/
theorem run_testRow_cons (t : CharTest) (tests : List CharTest) (p : Progress) :
    (testRow (t :: tests)).run text p k
      = ((Step.char t).next? text p).bind fun p' => (testRow tests).run text p' k := rfl

/-- A test succeeds on a character that it holds of, and goes on behind it. -/
theorem next?_char_eq_some_iff {t : CharTest} {p p' : Progress} :
    (Step.char t).next? text p = some p' ↔ ∃ c, text[p.position]? = some c
      ∧ t.holds c.toNat = true ∧ p' = { p with position := p.position + 1 } := by
  rw [Step.next?]
  cases hc : text[p.position]? with
  | none => simp
  | some c =>
    constructor
    · intro h
      obtain ⟨hholds, hp⟩ := Option.ite_none_right_eq_some.1 h
      exact ⟨c, rfl, hholds, (Option.some.inj hp).symm⟩
    · intro h
      obtain ⟨_, hchar, hholds, rfl⟩ := h
      cases hchar
      simp [hholds]

/-- A row of tests consumes the characters before it, one for each test, and hands on the position
behind them. -/
theorem run_testRow_iff {tests : List CharTest} {p : Progress} :
    (testRow tests).run text p k = some q ↔ ∃ front, front <+: text.toList.drop p.position
      ∧ Passes tests front ∧ k { p with position := p.position + tests.length } = some q := by
  induction tests generalizing p with
  | nil =>
    have hrun : (testRow []).run text p k = k p := rfl
    simp [hrun]
  | cons t tests ih =>
    rw [run_testRow_cons, Option.bind_eq_some_iff]
    constructor
    · intro h
      obtain ⟨p', hnext, hrun⟩ := h
      obtain ⟨c, hc, hholds, rfl⟩ := next?_char_eq_some_iff.1 hnext
      obtain ⟨front, hfront, hpasses, hk⟩ := ih.1 hrun
      have hdrop : text.toList.drop p.position = c :: text.toList.drop (p.position + 1) := by
        rw [← Array.getElem?_toList] at hc
        exact (List.getElem?_eq_some_iff.1 hc).elim fun hlt hc => hc ▸ List.drop_eq_getElem_cons hlt
      -- The character at the position comes before the stretch of the other tests.
      refine ⟨c :: front, ?front, ?passes, ?rest⟩
      case front => simpa [hdrop] using hfront
      case passes => simp [hholds, hpasses]
      case rest => simpa [Nat.add_assoc, Nat.add_comm 1] using hk
    · intro h
      obtain ⟨front, ⟨rest, hfront⟩, hpasses, hk⟩ := h
      obtain ⟨c, front, hholds, hrest, rfl⟩ := passes_cons_iff.1 hpasses
      have hc : text[p.position]? = some c := by
        rw [← Array.getElem?_toList, ← List.head?_drop, ← hfront]
        rfl
      have hfront : front ++ rest = text.toList.drop (p.position + 1) := by
        rw [← List.tail_drop, ← hfront]
        rfl
      refine ⟨_, next?_char_eq_some_iff.2 ⟨c, hc, hholds, rfl⟩, ih.2 ⟨front, ⟨rest, hfront⟩, hrest, ?_⟩⟩
      simpa [Nat.add_assoc, Nat.add_comm 1] using hk

end Run

theorem matchesAt_testRow_iff {tests : List CharTest} {text : Subject} {i : Nat} :
    (testRow tests).matchesAt text i = true
      ↔ ∃ front, front <+: text.toList.drop i ∧ Passes tests front := by
  unfold Tree.matchesAt
  rw [Option.isSome_iff_exists]
  constructor
  · intro h
    obtain ⟨q, hrun⟩ := h
    obtain ⟨front, hfront, hpasses, _⟩ := run_testRow_iff.1 hrun
    exact ⟨front, hfront, hpasses⟩
  · intro h
    obtain ⟨front, hfront, hpasses⟩ := h
    exact ⟨_, run_testRow_iff.2 ⟨front, hfront, hpasses, rfl⟩⟩

/-- A row of tests occurs in a text exactly when the tests hold of a stretch of it. -/
theorem occursIn_testRow_iff {tests : List CharTest} {text : Subject} :
    (testRow tests).occursIn text = true
      ↔ ∃ middle, middle <:+: text.toList ∧ Passes tests middle := by
  simp only [Tree.occursIn, List.any_eq_true, List.mem_range, matchesAt_testRow_iff]
  constructor
  · intro h
    obtain ⟨i, _, middle, hfront, hpasses⟩ := h
    exact ⟨middle, hfront.isInfix.trans (List.drop_suffix i _).isInfix, hpasses⟩
  · intro h
    obtain ⟨middle, ⟨before, after, htext⟩, hpasses⟩ := h
    -- The stretch is found where the characters before it end.
    have hlength : text.size = before.length + middle.length + after.length := by
      rw [← Array.length_toList, ← htext, List.length_append, List.length_append]
    refine ⟨before.length, by omega, middle, ⟨after, ?_⟩, hpasses⟩
    simp [← htext]

/-! ## §2 Tests of ordinary characters -/

/-- The test for an ordinary character. -/
def ordinaryTest (flags : Flags) (c : CodePoint) : CharTest :=
  if c = '.' then (if flags.dotAll then .anything else .noLineFeed)
  else literalTest flags false c.toNat

theorem resolve_ordinaryAtom (flags : Flags) (c : CodePoint) :
    (ordinaryAtom c).resolve flags = .char (ordinaryTest flags c) := by
  unfold ordinaryAtom ordinaryTest
  split
  · rfl
  · rfl

/-- The test for a character holds of that character, whether case is ignored or not. -/
theorem holds_literalTest_self (flags : Flags) (n : Nat) :
    (literalTest flags false n).holds n = true := by
  have hmates : ∀ fold : Fold, fold.lower n ∈ fold.mates (fold.lower n) := by
    intro fold
    cases fold with
    | ascii => simp [Fold.mates]
    | unicode => simp [Fold.mates]
  unfold literalTest
  split
  · simp [CharTest.holds]
  · split
    · simp [CharTest.holds, hmates]
    · simp [CharTest.holds]

theorem holds_ordinaryTest_self (flags : Flags) (c : CodePoint) :
    (ordinaryTest flags c).holds c.toNat = true := by
  unfold ordinaryTest
  split
  · next h =>
    subst h
    cases flags.dotAll with
    | false => rfl
    | true => rfl
  · exact holds_literalTest_self flags c.toNat

/-! ## §3 Whole patterns -/

/-- The tests of a pattern of ordinary characters. -/
def ordinaryTests (pattern : List CodePoint) : List CharTest :=
  pattern.map (ordinaryTest (smartFlags pattern))

/-- A pattern of ordinary characters is accepted, and occurs in a text exactly when its tests hold
of a stretch of the text. -/
theorem exists_compile_ordinary {pattern : Text} (h : ∀ c ∈ pattern.toList, IsOrdinary c) :
    ∃ p, compile pattern = .ok p ∧ ∀ text, p.occursIn text = true
      ↔ ∃ middle, middle <:+: text.toList ∧ Passes (ordinaryTests pattern.toList) middle := by
  have htree : (Tree.ofList (pattern.toList.map fun c =>
        .leaf ((ordinaryAtom c).resolve (smartFlags pattern.toList))) : Tree Step)
      = testRow (ordinaryTests pattern.toList) := by
    simp [testRow, ordinaryTests, resolve_ordinaryAtom, Function.comp_def]
  refine ⟨_, compile_ordinary h, ?_⟩
  intro text
  unfold Pattern.occursIn
  rw [htree]
  exact occursIn_testRow_iff

/-- The tests of a pattern hold of the pattern itself. -/
theorem passes_ordinaryTests_self (pattern : List CodePoint) :
    Passes (ordinaryTests pattern) pattern := by
  unfold Passes ordinaryTests
  rw [List.forall₂_map_left_iff, List.forall₂_same]
  exact fun c _ => holds_ordinaryTest_self (smartFlags pattern) c

/-- A pattern of ordinary characters occurs in itself. -/
theorem occursIn_self {pattern : Text} (h : ∀ c ∈ pattern.toList, IsOrdinary c) :
    ∃ p, compile pattern = .ok p ∧ p.occursIn pattern = true := by
  obtain ⟨p, hcompile, hoccurs⟩ := exists_compile_ordinary h
  refine ⟨p, hcompile, ?_⟩
  apply (hoccurs pattern).2
  exact ⟨pattern.toList, List.infix_refl _, passes_ordinaryTests_self pattern.toList⟩

end LogViewer.Pattern
