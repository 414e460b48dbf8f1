import Mathlib.Data.List.TakeWhile

/-!
# Lists

What several modules need of lists. In a list of pairs the first pair with a key has its value, and
a key is given another value by taking all its pairs out and putting one in front. The row of items
at the front that a test holds of ends at the first item that it does not hold of. Numbers that
increase are tried in their order.

## Main statements

- `lookup_filter_ne`, `lookup_replaced`: when pairs are taken out, and when a key has another value
- `span_eq_iff`, `reverse_dropWhile_reverse_eq_iff`: the row at the front or at the end, and the
  rest
- `findSome?_eq_some_iff_of_pairwise`: the first number that gives something
-/

namespace LogViewer

/-! ## §1 Looking up a key -/

section Lookup

variable {α β : Type} [BEq α] [LawfulBEq α]

/-- Looking up among the pairs of all keys but one. -/
theorem lookup_filter_ne (pairs : List (α × β)) (key other : α) :
    (pairs.filter (·.1 != key)).lookup other
      = if other == key then none else pairs.lookup other := by
  induction pairs with
  | nil => simp
  | cons pair pairs ih =>
    obtain ⟨here, value⟩ := pair
    rw [List.filter_cons]
    by_cases hhere : here = key
    · -- The pair is taken out, and it is no pair of another key.
      subst hhere
      rw [bne_self_eq_false, if_neg Bool.false_ne_true, ih, List.lookup_cons]
      cases other == here <;> rfl
    · have hkeep : (here != key) = true := bne_iff_ne.2 hhere
      rw [if_pos hkeep, List.lookup_cons, List.lookup_cons, ih]
      cases hother : other == here with
      | true =>
        have hne : (other == key) = false := by
          rw [eq_of_beq hother]
          exact beq_eq_false_iff_ne.2 hhere
        rw [hne]
        rfl
      | false => rfl

/-- Looking up after a key was given another value. -/
theorem lookup_replaced (pairs : List (α × β)) (key other : α) (value : β) :
    ((key, value) :: pairs.filter (·.1 != key)).lookup other
      = if other == key then some value else pairs.lookup other := by
  rw [List.lookup_cons, lookup_filter_ne]
  cases other == key <;> rfl

end Lookup

/-! ## §2 The rows at the ends -/

/-- A list is cut behind the row at its front exactly if it is cut where the test first fails. -/
theorem span_eq_iff {α : Type} {holds : α → Bool} {s row rest : List α} :
    s.takeWhile holds = row ∧ s.dropWhile holds = rest ↔
      s = row ++ rest ∧ (∀ c ∈ row, holds c = true) ∧ ∀ c ∈ rest.head?, holds c = false := by
  constructor
  · rintro ⟨rfl, rfl⟩
    refine ⟨List.takeWhile_append_dropWhile.symm, fun c hc => List.mem_takeWhile_imp hc, ?_⟩
    intro c hc
    have hstop := List.head?_dropWhile_not holds s
    rw [Option.mem_def.1 hc] at hstop
    simpa using hstop
  · rintro ⟨rfl, hrow, hrest⟩
    have hstop : rest.takeWhile holds = [] ∧ rest.dropWhile holds = rest := by
      cases rest with
      | nil => exact ⟨rfl, rfl⟩
      | cons c rest =>
        have hc : holds c = false := hrest c rfl
        simp [hc]
    rw [List.takeWhile_append_of_pos hrow, List.dropWhile_append_of_pos hrow, hstop.1, hstop.2,
      List.append_nil]
    exact ⟨rfl, rfl⟩

/-- A list is cut before the row at its end exactly if it is cut where the test last fails. -/
theorem reverse_dropWhile_reverse_eq_iff {α : Type} {holds : α → Bool} {s rest : List α} :
    (s.reverse.dropWhile holds).reverse = rest ↔ ∃ row, s = rest ++ row ∧
      (∀ c ∈ row, holds c = true) ∧ ∀ c ∈ rest.getLast?, holds c = false := by
  constructor
  · rintro rfl
    obtain ⟨hs, hrow, hrest⟩ := span_eq_iff.1
      (⟨rfl, rfl⟩ : s.reverse.takeWhile holds = _ ∧ s.reverse.dropWhile holds = _)
    refine ⟨(s.reverse.takeWhile holds).reverse, ?_, fun c hc => hrow c (List.mem_reverse.1 hc), ?_⟩
    · rw [← List.reverse_append, ← hs, List.reverse_reverse]
    · rwa [List.getLast?_reverse]
  · rintro ⟨row, rfl, hrow, hrest⟩
    have hspan : (rest ++ row).reverse.takeWhile holds = row.reverse ∧
        (rest ++ row).reverse.dropWhile holds = rest.reverse := by
      refine span_eq_iff.2 ⟨List.reverse_append, fun c hc => hrow c (List.mem_reverse.1 hc), ?_⟩
      rwa [List.head?_reverse]
    rw [hspan.2, List.reverse_reverse]

/-! ## §3 Numbers in their order -/

/-- What increasing numbers give first is given by the least number that gives anything. -/
theorem findSome?_eq_some_iff_of_pairwise {β : Type} {ns : List Nat} (hns : ns.Pairwise (· < ·))
    {f : Nat → Option β} {b : β} :
    ns.findSome? f = some b ↔ ∃ n ∈ ns, f n = some b ∧ ∀ m ∈ ns, m < n → f m = none := by
  rw [List.findSome?_eq_some_iff]
  constructor
  · rintro ⟨before, n, after, rfl, hn, hbefore⟩
    refine ⟨n, by simp, hn, fun m hm hlt => ?_⟩
    have hgreater := (List.pairwise_append.1 hns).2.1
    rw [List.mem_append, List.mem_cons] at hm
    rcases hm with hm | rfl | hm
    · exact hbefore m hm
    · exact absurd hlt (Nat.lt_irrefl _)
    · exact absurd ((List.pairwise_cons.1 hgreater).1 m hm) (Nat.lt_asymm hlt)
  · rintro ⟨n, hmem, hn, hless⟩
    obtain ⟨before, after, rfl⟩ := List.append_of_mem hmem
    refine ⟨before, n, after, rfl, hn, fun m hm => hless m (List.mem_append_left _ hm) ?_⟩
    exact (List.pairwise_append.1 hns).2.2 m hm n (List.mem_cons_self ..)

end LogViewer
